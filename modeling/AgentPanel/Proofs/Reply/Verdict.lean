import AgentPanel.Proofs.Reader.Spelling
import AgentPanel.Proofs.Reply.BraceDepth
import AgentPanel.Reply.Parsed

/-!
# What decides the fate of a reply

The way in which the first object of a reply closes decides what the reply comes to
(`parse_verdict`). A closed object stands or falls as it is, an object that never closes stands or
falls with its repaired text, and without an object there is no payload. Errors keep the whole
reply.
-/

namespace AgentPanel

/-! ## Cut texts -/

namespace Text

theorem dropEndWhile_isPrefix (p : CodePoint → Bool) (t : Text) : dropEndWhile p t <+: t := by
  have hsuffix : t.reverse.dropWhile p <:+ t.reverse := List.dropWhile_suffix p
  have := List.reverse_prefix.mpr hsuffix
  rwa [List.reverse_reverse] at this

theorem trimEnd_isPrefix (t : Text) : t.trimEnd <+: t := dropEndWhile_isPrefix _ t

theorem mem_of_mem_trim {c : CodePoint} {t : Text} (h : c ∈ t.trim) : c ∈ t := by
  have hstart : t.trimStart <:+ t := List.dropWhile_suffix _
  exact hstart.subset ((trimEnd_isPrefix t.trimStart).subset h)

end Text

namespace Reply

open Json (decodeWithin? Document Value)

variable {limit : Nat}

/-! ## The candidate -/

theorem mem_of_mem_dropLabel {c : CodePoint} {t : Text} (h : c ∈ dropLabel t) : c ∈ t := by
  unfold dropLabel at h
  split at h
  · split at h
    · simp [h]
    · exact h
  · exact h

theorem mem_of_mem_dropFences {c : CodePoint} {t : Text} (h : c ∈ dropFences t) : c ∈ t := by
  fun_induction dropFences t with
  | case1 rest ih => simp [mem_of_mem_dropLabel (ih h)]
  | case2 d rest _ ih =>
    rcases List.mem_cons.mp h with rfl | h
    · exact List.mem_cons_self ..
    · exact List.mem_cons_of_mem _ (ih h)
  | case3 => exact h

theorem dropLastFence_isPrefix (t : Text) : dropLastFence t <+: t :=
  (Text.trimEnd_isPrefix _).trans ((List.take_prefix _ _).trans (Text.trimEnd_isPrefix t))

/-- A reply with a brace has an object from its first brace on. -/
theorem exists_fromFirstBrace_eq {reply : Text} (h : CodePoint.scalar '\x7b' ∈ reply) :
    ∃ t, fromFirstBrace reply = CodePoint.scalar '\x7b' :: t := by
  induction reply with
  | nil => cases h
  | cons c reply ih =>
    by_cases hc : c = '\x7b'
    · subst hc
      exact ⟨reply, rfl⟩
    · have hmem : CodePoint.scalar '\x7b' ∈ reply := by
        rcases List.mem_cons.mp h with hhead | hmem
        · exact absurd hhead.symm hc
        · exact hmem
      obtain ⟨t, ht⟩ := ih hmem
      refine ⟨t, ?_⟩
      rw [← ht]
      simp [fromFirstBrace, hc]

theorem candidate_eq {reply t : Text} (h : fromFirstBrace reply = CodePoint.scalar '\x7b' :: t) :
    candidate reply = objectCandidate (CodePoint.scalar '\x7b' :: t) := by
  rw [candidate, h]
  rfl

theorem candidate_of_closed {reply t object : Text}
    (h : fromFirstBrace reply = CodePoint.scalar '\x7b' :: t)
    (hextent : extent (CodePoint.scalar '\x7b' :: t) = .closed object) :
    candidate reply = object := by
  rw [candidate_eq h, objectCandidate, hextent]

theorem candidate_of_unclosed {reply t : Text} {depth : Nat}
    (h : fromFirstBrace reply = CodePoint.scalar '\x7b' :: t)
    (hextent : extent (CodePoint.scalar '\x7b' :: t) = .unclosed depth) :
    candidate reply <+: CodePoint.scalar '\x7b' :: t := by
  rw [candidate_eq h, objectCandidate, hextent]
  show (if _ then _ else _) <+: _
  split
  · exact dropLastFence_isPrefix _
  · exact List.prefix_refl _

theorem fromFirstBrace_eq_nil {reply : Text} (h : CodePoint.scalar '\x7b' ∉ reply) :
    fromFirstBrace reply = [] := by
  cases hfrom : fromFirstBrace reply with
  | nil => rfl
  | cons c t =>
    have hmem : c ∈ reply := List.dropWhile_subset _ (by rw [← fromFirstBrace, hfrom]; simp)
    have hhead := List.head?_dropWhile_not (· ≠ CodePoint.scalar '\x7b') reply
    rw [← fromFirstBrace, hfrom] at hhead
    have hc : c = '\x7b' := by simpa using hhead
    exact absurd (hc ▸ hmem) h

/-- The candidate of a reply without a brace has none. -/
theorem not_mem_candidate {reply : Text} (h : CodePoint.scalar '\x7b' ∉ reply) :
    CodePoint.scalar '\x7b' ∉ candidate reply := by
  rw [candidate, fromFirstBrace_eq_nil h]
  intro hmem
  exact h (mem_of_mem_dropFences (Text.mem_of_mem_trim hmem))

/-! ## Objects begin with a brace -/

theorem not_mem_missing (t : Text) : CodePoint.scalar '\x7b' ∉ missing t := by
  rw [missing, Unfinished.closing]
  intro hmem
  rcases List.mem_append.mp hmem with hstring | hcloser
  · generalize (unfinished t).quote = quote at hstring
    cases quote <;> simp [Unfinished.closeString] at hstring
  · obtain ⟨b, -, hb⟩ := List.mem_map.mp hcloser
    cases b <;> cases hb

theorem not_mem_repair {t : Text} (h : CodePoint.scalar '\x7b' ∉ t) :
    CodePoint.scalar '\x7b' ∉ repair t := by
  rw [repair, List.mem_append]
  exact fun hmem => hmem.elim h (not_mem_missing t)

theorem numberValue?_ne_object {literal : Text} {members : Json.Members} :
    Json.numberValue? literal ≠ some (.object members) := by
  have hunsigned : ∀ negative t, Json.unsignedValue? negative t ≠ some (.object members) := by
    intro negative t
    unfold Json.unsignedValue?
    split
    split
    · split <;> simp
    · simp
    · simp
  unfold Json.numberValue?
  split
  · exact hunsigned _ _
  · exact hunsigned _ _

/-- A text that is an object has an opening brace. -/
theorem mem_of_decodeWithin?_object {t : Text} {members : Json.Members}
    (h : decodeWithin? limit t = some (.object members)) : CodePoint.scalar '\x7b' ∈ t := by
  obtain ⟨d, ⟨-, before, after, -, -, rfl⟩, hv⟩ :=
    Json.Reader.exists_document_of_decodeWithin? h
  cases d with
  | word w => cases w <;> cases hv
  | number literal => exact absurd hv numberValue?_ne_object
  | string atoms => cases hv
  | array gap items =>
    obtain ⟨vs, -, harray⟩ := Option.map_eq_some_iff.mp hv
    cases harray
  | object gap members' => simp [Document.text]

/-! ## What a reply comes to -/

/-- The reply holds JSON in the given text: it is a payload, or the JSON is not one. -/
def IsUsable (reply : Text) (repaired : Bool) (text : Text) (r : Except PanelError Parsed) : Prop :=
  (∃ payload, r = .ok ⟨payload, repaired, text⟩) ∨ ∃ message, r = .error (.schema message reply)

/-- The reply holds no JSON. -/
def IsMalformed (reply : Text) (r : Except PanelError Parsed) : Prop :=
  ∃ message, r = .error (.malformed message reply)

theorem IsUsable.not_isMalformed {reply text : Text} {repaired : Bool}
    {r : Except PanelError Parsed} (h : IsUsable reply repaired text r) : ¬IsMalformed reply r := by
  rintro ⟨message, hr⟩
  rcases h with ⟨payload, hok⟩ | ⟨message', herror⟩
  · cases hok.symm.trans hr
  · cases herror.symm.trans hr

theorem payloadOf_value_object (members : Json.Members) :
    (payloadOf (.object members)).value =
      if (Keyed.get? "components" members).isNone then .error .noComponents
      else match Payload.check (.object (cutDeep members)) with
        | .valid payload => .ok payload
        | .faulty n => .error (.mismatch n) := by
  simp only [payloadOf]
  split
  · rfl
  · split <;> cases Payload.check (.object (cutDeep members)) <;> rfl

/-- What a decoded value comes to is never missing JSON. -/
theorem payloadOf_value_cases (v : Value) :
    (∃ payload members, v = .object members ∧ (payloadOf v).value = .ok payload) ∨
      ∃ fault, (payloadOf v).value = .error fault ∧ fault ≠ .notJson := by
  cases v with
  | object members =>
    rw [payloadOf_value_object]
    split
    · exact .inr ⟨.noComponents, rfl, nofun⟩
    split
    · next payload _ => exact .inl ⟨payload, members, rfl, rfl⟩
    · next n _ => exact .inr ⟨.mismatch n, rfl, nofun⟩
  | _ => exact .inr ⟨_, rfl, nofun⟩

theorem Fault.error_of_ne {reply : Text} {fault : Fault} (h : fault ≠ .notJson) :
    fault.error reply = .schema fault.message reply := by
  cases fault with
  | notJson => exact absurd rfl h
  | _ => rfl

/-- The verdict on a decoded value. -/
theorem isUsable_payloadOf (reply : Text) (repaired : Bool) (text : Text) (v : Value) :
    IsUsable reply repaired text
      (((payloadOf v).value.map fun payload => ⟨payload, repaired, text⟩).mapError
        (Fault.error reply)) := by
  rcases payloadOf_value_cases v with ⟨payload, members, -, hvalue⟩ | ⟨fault, hvalue, hfault⟩
  · exact .inl ⟨payload, by rw [hvalue]; rfl⟩
  · refine .inr ⟨fault.message, ?_⟩
    rw [hvalue, ← Fault.error_of_ne hfault]
    rfl

theorem parse_of_candidate {reply : Text} {v : Value}
    (h : decodeWithin? limit (candidate reply) = some v) :
    (parse limit reply).value = ((payloadOf v).value.map fun payload =>
      ⟨payload, false, candidate reply⟩).mapError (Fault.error reply) := by
  simp only [parse, parse?, h]
  rfl

theorem parse_of_repair {reply : Text} {v : Value}
    (h : decodeWithin? limit (candidate reply) = none)
    (h' : decodeWithin? limit (repair (candidate reply)) = some v) :
    (parse limit reply).value = ((payloadOf v).value.map fun payload =>
      ⟨payload, true, repair (candidate reply)⟩).mapError (Fault.error reply) := by
  simp only [parse, parse?, h, parseRepaired, h', Logged.value_bind]
  cases (payloadOf v).value <;> rfl

theorem parse_of_none {reply : Text} (h : decodeWithin? limit (candidate reply) = none)
    (h' : decodeWithin? limit (repair (candidate reply)) = none) :
    IsMalformed reply (parse limit reply).value := by
  refine ⟨Fault.notJson.message, ?_⟩
  simp only [parse, parse?, h, parseRepaired, h']
  rfl

/-- What the text that is read decides. -/
theorem verdict_iff {reply text : Text} {repaired : Bool} {r : Except PanelError Parsed}
    {decoded : Option Value} (hsome : ∀ v, decoded = some v → IsUsable reply repaired text r)
    (hnone : decoded = none → IsMalformed reply r) :
    (IsUsable reply repaired text r ↔ decoded.isSome) ∧ (IsMalformed reply r ↔ decoded = none) := by
  cases decoded with
  | none =>
    have hmalformed := hnone rfl
    refine ⟨⟨fun h => ?_, nofun⟩, ⟨fun _ => rfl, fun _ => hmalformed⟩⟩
    exact absurd hmalformed h.not_isMalformed
  | some v =>
    have husable := hsome v rfl
    refine ⟨⟨fun _ => rfl, fun _ => husable⟩, ⟨fun h => ?_, nofun⟩⟩
    exact absurd h husable.not_isMalformed

theorem isUsable_of_candidate {reply : Text} {v : Value}
    (h : decodeWithin? limit (candidate reply) = some v) :
    IsUsable reply false (candidate reply) (parse limit reply).value := by
  rw [parse_of_candidate h]
  exact isUsable_payloadOf ..

theorem isUsable_of_repair {reply : Text} {v : Value}
    (h : decodeWithin? limit (candidate reply) = none)
    (h' : decodeWithin? limit (repair (candidate reply)) = some v) :
    IsUsable reply true (repair (candidate reply)) (parse limit reply).value := by
  rw [parse_of_repair h h']
  exact isUsable_payloadOf ..

/-- Payloads are read from objects. -/
theorem exists_object_of_ok {reply text : Text} {repaired : Bool} {v : Value} {parsed : Parsed}
    (h : ((payloadOf v).value.map fun payload => ⟨payload, repaired, text⟩).mapError
      (Fault.error reply) = .ok parsed) : ∃ members, v = .object members := by
  rcases payloadOf_value_cases v with ⟨payload, members, hv, -⟩ | ⟨fault, hvalue, -⟩
  · exact ⟨members, hv⟩
  · rw [hvalue] at h
    cases h

theorem mem_of_parse_ok {reply : Text} {parsed : Parsed}
    (h : (parse limit reply).value = .ok parsed) :
    CodePoint.scalar '\x7b' ∈ reply := by
  by_cases hmem : CodePoint.scalar '\x7b' ∈ reply
  · exact hmem
  have hcandidate := not_mem_candidate hmem
  cases hv : decodeWithin? limit (candidate reply) with
  | some v =>
    rw [parse_of_candidate hv] at h
    obtain ⟨members, rfl⟩ := exists_object_of_ok h
    exact absurd (mem_of_decodeWithin?_object hv) hcandidate
  | none =>
    cases hv' : decodeWithin? limit (repair (candidate reply)) with
    | some v =>
      rw [parse_of_repair hv hv'] at h
      obtain ⟨members, rfl⟩ := exists_object_of_ok h
      exact absurd (mem_of_decodeWithin?_object hv') (not_mem_repair hcandidate)
    | none =>
      obtain ⟨message, herror⟩ := parse_of_none hv hv'
      cases herror.symm.trans h

/-- Every error keeps the reply. -/
theorem error_of_parse (reply : Text) (e : PanelError) (h : (parse limit reply).value = .error e) :
    ∃ message, e = .schema message reply ∨ e = .malformed message reply := by
  have hcases : (∃ repaired text, IsUsable reply repaired text (parse limit reply).value) ∨
      IsMalformed reply (parse limit reply).value := by
    cases hv : decodeWithin? limit (candidate reply) with
    | some v => exact .inl ⟨_, _, isUsable_of_candidate hv⟩
    | none =>
      cases hv' : decodeWithin? limit (repair (candidate reply)) with
      | some v => exact .inl ⟨_, _, isUsable_of_repair hv hv'⟩
      | none => exact .inr (parse_of_none hv hv')
  rw [h] at hcases
  rcases hcases with ⟨_, _, ⟨_, hok⟩ | ⟨message, hschema⟩⟩ | ⟨message, hmalformed⟩
  · cases hok
  · exact ⟨message, .inl (Except.error.inj hschema)⟩
  · exact ⟨message, .inr (Except.error.inj hmalformed)⟩

/-- The way in which the first object of a reply closes decides what the reply comes to: without an
object there is no payload, a closed object is read as it is and repair would change nothing, and an
object that never closes is read with the repaired text only. Every error keeps the whole reply. -/
theorem parse_verdict (limit : Nat) (reply : Text) :
    (CodePoint.scalar '\x7b' ∉ reply → ∀ parsed, (parse limit reply).value ≠ .ok parsed) ∧
      (∀ object, extent (fromFirstBrace reply) = .closed object →
        candidate reply = object ∧
          decodeWithin? limit (repair object) = decodeWithin? limit object ∧
          (IsUsable reply false object (parse limit reply).value ↔
            (decodeWithin? limit object).isSome) ∧
          (IsMalformed reply (parse limit reply).value ↔ decodeWithin? limit object = none)) ∧
      (∀ depth, CodePoint.scalar '\x7b' ∈ reply →
        extent (fromFirstBrace reply) = .unclosed depth →
          decodeWithin? limit (candidate reply) = none ∧
            (IsUsable reply true (repair (candidate reply)) (parse limit reply).value ↔
              (decodeWithin? limit (repair (candidate reply))).isSome) ∧
            (IsMalformed reply (parse limit reply).value ↔
              decodeWithin? limit (repair (candidate reply)) = none)) ∧
      ∀ e, (parse limit reply).value = .error e →
        ∃ message, e = .schema message reply ∨ e = .malformed message reply := by
  refine ⟨fun hmem parsed hok => hmem (mem_of_parse_ok hok), ?_, ?_, error_of_parse reply⟩
  -- a closed object: repair is tried if it is no JSON, but comes to the same
  · intro object hextent
    have hmem : CodePoint.scalar '\x7b' ∈ reply := by
      by_cases hmem : CodePoint.scalar '\x7b' ∈ reply
      · exact hmem
      · rw [fromFirstBrace_eq_nil hmem] at hextent
        cases hextent
    obtain ⟨t, ht⟩ := exists_fromFirstBrace_eq hmem
    rw [ht] at hextent
    have hcandidate : candidate reply = object := candidate_of_closed ht hextent
    have hrepair : decodeWithin? limit (repair object) = decodeWithin? limit object :=
      Json.Reader.decodeWithin?_repair_of_extent hextent
    refine ⟨hcandidate, hrepair, verdict_iff (fun v hv => ?_) fun hnone => ?_⟩
    · subst hcandidate
      exact isUsable_of_candidate hv
    · subst hcandidate
      exact parse_of_none hnone (hrepair.trans hnone)
  -- an object that never closes: only repair can help
  · intro depth hmem hextent
    obtain ⟨t, ht⟩ := exists_fromFirstBrace_eq hmem
    rw [ht] at hextent
    have hnone : decodeWithin? limit (candidate reply) = none :=
      Json.Reader.decodeWithin?_eq_none_of_extent hextent (candidate_of_unclosed ht hextent)
    refine ⟨hnone, verdict_iff (fun v hv => ?_) fun hnone' => ?_⟩
    · exact isUsable_of_repair hnone hv
    · exact parse_of_none hnone hnone'

/-- A reply without an object, one with a closed object whose brackets do not match, and one whose
object was cut off behind its first key. -/
theorem parse_verdict_replies :
    (CodePoint.scalar '\x7b' ∉ Text.ofString "[]" ∧
        ∀ parsed, (parse Json.maxNesting "[]").value ≠ .ok parsed) ∧
      (extent (fromFirstBrace "\x7b\"a\": [1\x7d]") = .closed "\x7b\"a\": [1\x7d" ∧
        IsMalformed "\x7b\"a\": [1\x7d]" (parse Json.maxNesting "\x7b\"a\": [1\x7d]").value) ∧
      CodePoint.scalar '\x7b' ∈ Text.ofString "Sure: \x7b\"components\": [" ∧
      extent (fromFirstBrace "Sure: \x7b\"components\": [") = .unclosed 1 ∧
      IsUsable "Sure: \x7b\"components\": [" true "\x7b\"components\": []\x7d"
        (parse Json.maxNesting "Sure: \x7b\"components\": [").value := by
  have hnone : CodePoint.scalar '\x7b' ∉ Text.ofString "[]" := by decide
  have hclosed : extent (fromFirstBrace "\x7b\"a\": [1\x7d]") = .closed "\x7b\"a\": [1\x7d" := by
    decide
  have hmem : CodePoint.scalar '\x7b' ∈ Text.ofString "Sure: \x7b\"components\": [" := by decide
  have hunclosed : extent (fromFirstBrace "Sure: \x7b\"components\": [") = .unclosed 1 := by decide
  refine ⟨⟨hnone, (parse_verdict Json.maxNesting _).1 hnone⟩, ⟨hclosed, ?_⟩, hmem, hunclosed, ?_⟩
  · exact ((parse_verdict Json.maxNesting _).2.1 _ hclosed).2.2.2.mpr (by decide)
  · exact ((parse_verdict Json.maxNesting _).2.2.1 1 hmem hunclosed).2.1.mpr (by decide)

end Reply

end AgentPanel
