import AgentPanel.Proofs.Reply.WholeObject

/-!
# What is around an object

The candidate of a reply does not depend on prose in front of its first brace. Behind a whole object
nothing matters at all, and behind an object that never closes a fence and blanks do not
(`candidate_ignores_surroundings`).

So what has been read from a reply can be read again: the text that gave the payload is a whole
object, its own candidate, and gives the same payload without repair (`parse_candidate_eq`).
-/

namespace AgentPanel

/-! ## Ends of texts -/

namespace Text

theorem dropStart?_append (s t : Text) : dropStart? s (s ++ t) = some t := by
  induction s with
  | nil => rfl
  | cons c s ih => rw [List.cons_append, dropStart?, if_pos rfl, ih]

theorem endsWith_append (t ending : Text) : endsWith (t ++ ending) ending = true := by
  rw [endsWith, startsWith, List.reverse_append, dropStart?_append]
  rfl

theorem trimEnd_append_of_isBlank {w : Text} (h : isBlank w) (t : Text) :
    trimEnd (t ++ w) = trimEnd t := by
  have hblank : ∀ c ∈ w.reverse, c.isBlank := by
    intro c hc
    exact List.all_eq_true.mp h c (List.mem_reverse.mp hc)
  rw [trimEnd, dropEndWhile, List.reverse_append, List.dropWhile_append_of_pos hblank]
  rfl

end Text

namespace Reply

open Json (Value decodeWithin?)

theorem trimEnd_append_fence (t : Text) : Text.trimEnd (t ++ fence) = t ++ fence := by
  have hback : ¬(CodePoint.scalar '`').isBlank = true := by decide
  have hreverse : (t ++ fence).reverse.dropWhile CodePoint.isBlank = (t ++ fence).reverse := by
    rw [List.reverse_append]
    exact List.dropWhile_cons_of_neg hback
  rw [Text.trimEnd, Text.dropEndWhile, hreverse, List.reverse_reverse]

variable {prose p o w₁ w₂ : Text} {limit n : Nat}

theorem dropLastFence_append (h : w₂.isBlank) (t : Text) :
    dropLastFence (t ++ fence ++ w₂) = t.trimEnd := by
  have htrim : Text.trimEnd (t ++ fence ++ w₂) = t ++ fence := by
    rw [Text.trimEnd_append_of_isBlank h, trimEnd_append_fence]
  rw [dropLastFence, htrim, List.length_append, Nat.add_sub_cancel, List.take_left]

/-! ## The candidate -/

theorem fromFirstBrace_append (hprose : CodePoint.scalar '\x7b' ∉ prose)
    (hp : p.head? = some (CodePoint.scalar '\x7b')) : fromFirstBrace (prose ++ p) = p := by
  obtain ⟨t, rfl⟩ := List.head?_eq_some_iff.mp hp
  have hdropped : ∀ c ∈ prose, decide (c ≠ CodePoint.scalar '\x7b') = true := by
    intro c hc
    apply decide_eq_true
    rintro rfl
    exact hprose hc
  rw [fromFirstBrace, List.dropWhile_append_of_pos hdropped]
  exact List.dropWhile_cons_of_neg (by decide)

theorem candidate_append (hprose : CodePoint.scalar '\x7b' ∉ prose)
    (hp : p.head? = some (CodePoint.scalar '\x7b')) :
    candidate (prose ++ p) = objectCandidate p := by
  have hfrom := fromFirstBrace_append hprose hp
  obtain ⟨t, rfl⟩ := List.head?_eq_some_iff.mp hp
  exact candidate_eq hfrom

/-- Behind a whole object nothing matters. -/
theorem IsWholeObject.candidate_append (h : IsWholeObject o)
    (hprose : CodePoint.scalar '\x7b' ∉ prose) (tail : Text) :
    candidate (prose ++ o ++ tail) = o := by
  have hhead : (o ++ tail).head? = some (CodePoint.scalar '\x7b') := by
    rw [List.head?_append, h.begins, Option.some_or]
  have hextent : extent (o ++ tail) = .closed o := scanBraces_append_of_closed h.closes tail
  rw [List.append_assoc, Reply.candidate_append hprose hhead, objectCandidate, hextent]

theorem IsWholeObject.candidate_eq (h : IsWholeObject o) : candidate o = o := by
  have hnothing : CodePoint.scalar '\x7b' ∉ ([] : Text) := List.not_mem_nil
  have := h.candidate_append hnothing []
  rwa [List.append_nil] at this

theorem not_mem_of_isBlank {w : Text} (h : w.isBlank) : CodePoint.scalar '\x7d' ∉ w := by
  intro hmem
  have hblank := List.all_eq_true.mp h _ hmem
  exact absurd hblank (by decide)

/-- Behind an object that never closes a fence does not matter, nor do the blanks around it. -/
theorem objectCandidate_append_fence (h : extent p = .unclosed n) (hw₁ : w₁.isBlank)
    (hw₂ : w₂.isBlank) : objectCandidate (p ++ w₁ ++ fence ++ w₂) = p.trimEnd := by
  have hbehind : CodePoint.scalar '\x7d' ∉ w₁ ++ fence ++ w₂ := by
    simp only [List.mem_append, not_or]
    exact ⟨⟨not_mem_of_isBlank hw₁, by decide⟩, not_mem_of_isBlank hw₂⟩
  obtain ⟨m, hm⟩ := scanBraces_append_of_unclosed h hbehind
  have hextent : extent (p ++ w₁ ++ fence ++ w₂) = .unclosed m := by
    rw [extent, ← hm]
    simp only [List.append_assoc]
  have hfence : Text.endsWith (Text.trimEnd (p ++ w₁ ++ fence ++ w₂)) fence = true := by
    rw [Text.trimEnd_append_of_isBlank hw₂, trimEnd_append_fence]
    exact Text.endsWith_append ..
  rw [objectCandidate, hextent]
  show (if _ then _ else _) = _
  rw [if_pos hfence, dropLastFence_append hw₂, Text.trimEnd_append_of_isBlank hw₁]

/-! ## What a reply comes to -/

variable {limit : Nat}

theorem value_parse (limit : Nat) (reply : Text) :
    (parse limit reply).value = (parse? limit reply).value.mapError (Fault.error reply) := rfl

theorem value_parseRepaired_eq (limit : Nat) (reply reply' text : Text) :
    (parseRepaired limit reply text).value = (parseRepaired limit reply' text).value := by
  simp only [parseRepaired, Logged.value_bind]
  cases decodeWithin? limit (repair text) <;> rfl

/-- The candidate alone decides what a reply comes to. -/
theorem value_parse?_congr (limit : Nat) {reply reply' : Text}
    (h : candidate reply = candidate reply') :
    (parse? limit reply).value = (parse? limit reply').value := by
  simp only [parse?, h]
  cases decodeWithin? limit (candidate reply') with
  | some v => rfl
  | none => exact value_parseRepaired_eq limit reply reply' _

/-- A text that is its own candidate and lacks nothing is read as it is. -/
theorem value_parse?_cases (hcandidate : candidate o = o) (hrepair : repair o = o) :
    (∃ v payload, decodeWithin? limit o = some v ∧ (payloadOf v).value = .ok payload ∧
        (parse? limit o).value = .ok ⟨payload, false, o⟩) ∨
      ∃ fault, (parse? limit o).value = .error fault := by
  cases hv : decodeWithin? limit o with
  | none =>
    refine .inr ⟨.notJson, ?_⟩
    simp only [parse?, hcandidate, hv, parseRepaired, hrepair]
    rfl
  | some v =>
    have hparse : (parse? limit o).value =
        (payloadOf v).value.map fun payload => ⟨payload, false, o⟩ := by
      simp only [parse?, hcandidate, hv]
      rfl
    cases hpayload : (payloadOf v).value with
    | ok payload => exact .inl ⟨v, payload, rfl, hpayload, by rw [hparse, hpayload]; rfl⟩
    | error fault => exact .inr ⟨fault, by rw [hparse, hpayload]; rfl⟩

/-- What is around an object does not matter: prose without a brace in front of it, anything behind
a whole object, so that the reply comes to what the object itself comes to, and a fence with blanks
behind an object that never closes. -/
theorem candidate_ignores_surroundings (hprose : CodePoint.scalar '\x7b' ∉ prose) :
    (∀ p : Text, p.head? = some (CodePoint.scalar '\x7b') →
        candidate (prose ++ p) = candidate p) ∧
      (∀ (limit : Nat) (o tail : Text), (decodeWithin? limit o).isSome →
        o.head? = some (CodePoint.scalar '\x7b') → o.getLast? = some (CodePoint.scalar '\x7d') →
          candidate (prose ++ o ++ tail) = o ∧ ∀ reading : Nat,
            ((∃ v payload, decodeWithin? reading o = some v ∧ (payloadOf v).value = .ok payload ∧
                (parse reading o).value = .ok ⟨payload, false, o⟩ ∧
                (parse reading (prose ++ o ++ tail)).value = .ok ⟨payload, false, o⟩) ∨
              ∃ fault : Fault, (parse reading o).value = .error (fault.error o) ∧
                (parse reading (prose ++ o ++ tail)).value =
                  .error (fault.error (prose ++ o ++ tail)))) ∧
      ∀ (p w₁ w₂ : Text) (depth : Nat), p.head? = some (CodePoint.scalar '\x7b') →
        extent p = .unclosed depth → w₁.isBlank → w₂.isBlank →
          candidate (prose ++ p ++ w₁ ++ fence ++ w₂) = p.trimEnd := by
  refine ⟨?_, ?_, ?_⟩
  · intro p hp
    have hnothing : CodePoint.scalar '\x7b' ∉ ([] : Text) := List.not_mem_nil
    rw [candidate_append hprose hp, ← candidate_append hnothing hp, List.nil_append]
  · intro limit o tail haccepted hfirst hlast
    have hwhole := Json.Reader.isWholeObject_of_decodeWithin? haccepted hfirst hlast
    obtain ⟨v, hv⟩ := Option.isSome_iff_exists.mp haccepted
    have hcandidate := hwhole.candidate_append hprose tail
    refine ⟨hcandidate, ?_⟩
    intro reading
    -- the reply and the object alone have one candidate, so they come to the same
    have hsame := value_parse?_congr reading (hcandidate.trans hwhole.candidate_eq.symm)
    rcases value_parse?_cases hwhole.candidate_eq (Json.Reader.repair_of_decodeWithin? hv) with
      ⟨w, payload, hw, hpayload, hparse⟩ | ⟨fault, hparse⟩
    · refine .inl ⟨w, payload, hw, hpayload, ?_, ?_⟩
      · rw [value_parse, hparse]
        rfl
      · rw [value_parse, hsame, hparse]
        rfl
    · refine .inr ⟨fault, ?_, ?_⟩
      · rw [value_parse, hparse]
        rfl
      · rw [value_parse, hsame, hparse]
        rfl
  · intro p w₁ w₂ depth hp hextent hw₁ hw₂
    have hhead : (p ++ (w₁ ++ (fence ++ w₂))).head? = some (CodePoint.scalar '\x7b') := by
      rw [List.head?_append, hp, Option.some_or]
    have hobject := objectCandidate_append_fence hextent hw₁ hw₂
    simp only [List.append_assoc] at hobject ⊢
    rw [candidate_append hprose hhead, hobject]

/-- Prose with a bracket and a quote, an object that holds braces in a string, and behind it a
brace, a quote and another object; then an object that was cut off after two backticks in an open
string. -/
theorem candidate_ignores_surroundings_replies :
    CodePoint.scalar '\x7b' ∉ Text.ofString "Sure, \"this]: " ∧
      candidate (Text.ofString "Sure, \"this]: " ++
        Text.ofString "\x7b\"components\": [], \"\x7d\": [\"\x7b\"]\x7d" ++
          Text.ofString "\x7d\" \x7b\x7d") =
        Text.ofString "\x7b\"components\": [], \"\x7d\": [\"\x7b\"]\x7d" ∧
      extent "\x7b\"a\": \"`` " = .unclosed 1 ∧
      candidate (Text.ofString "Sure, \"this]: " ++ Text.ofString "\x7b\"a\": \"`` " ++
        Text.ofString "\n" ++ fence ++ Text.ofString "\t\n") =
        Text.ofString "\x7b\"a\": \"``" := by
  have hprose : CodePoint.scalar '\x7b' ∉ Text.ofString "Sure, \"this]: " := by decide
  have haccepted : (decodeWithin? 2
      (Text.ofString "\x7b\"components\": [], \"\x7d\": [\"\x7b\"]\x7d")).isSome := by
    decide +kernel
  have hunclosed : extent "\x7b\"a\": \"`` " = .unclosed 1 := by decide
  obtain ⟨-, hwhole, hfence⟩ := candidate_ignores_surroundings hprose
  refine ⟨hprose, ?_, hunclosed, ?_⟩
  · exact (hwhole 2 _ (Text.ofString "\x7d\" \x7b\x7d") haccepted (by decide) (by decide)).1
  · have htrimmed : Text.trimEnd "\x7b\"a\": \"`` " = Text.ofString "\x7b\"a\": \"``" := by decide
    rw [hfence "\x7b\"a\": \"`` " "\n" "\t\n" 1 (by decide) hunclosed (by decide) (by decide),
      htrimmed]

/-! ## Reading again -/

theorem exists_payload_of_ok {reply text : Text} {repaired : Bool} {v : Value} {parsed : Parsed}
    (h : ((payloadOf v).value.map fun payload => ⟨payload, repaired, text⟩).mapError
      (Fault.error reply) = .ok parsed) :
    ∃ payload, (payloadOf v).value = .ok payload ∧ parsed = ⟨payload, repaired, text⟩ := by
  cases hpayload : (payloadOf v).value with
  | error fault =>
    rw [hpayload] at h
    cases h
  | ok payload =>
    rw [hpayload] at h
    cases h
    exact ⟨payload, rfl, rfl⟩

theorem isWholeObject_of_parse_ok {reply : Text} {parsed : Parsed}
    (h : (parse limit reply).value = .ok parsed) :
    IsWholeObject parsed.candidate ∧
      ∃ v, decodeWithin? limit parsed.candidate = some v ∧
        (payloadOf v).value = .ok parsed.payload := by
  obtain ⟨t, ht⟩ := exists_fromFirstBrace_eq (mem_of_parse_ok h)
  cases hv : decodeWithin? limit (candidate reply) with
  | some v =>
    rw [parse_of_candidate hv] at h
    obtain ⟨payload, hpayload, rfl⟩ := exists_payload_of_ok h
    refine ⟨?_, v, hv, hpayload⟩
    cases hextent : extent (CodePoint.scalar '\x7b' :: t) with
    | closed object =>
      rw [candidate_of_closed ht hextent]
      exact isWholeObject_of_extent hextent
    | unclosed depth =>
      -- an object that never closes is no JSON as it is
      have hnone : decodeWithin? limit (candidate reply) = none :=
        Json.Reader.decodeWithin?_eq_none_of_extent hextent (candidate_of_unclosed ht hextent)
      rw [hnone] at hv
      cases hv
  | none =>
    cases hv' : decodeWithin? limit (repair (candidate reply)) with
    | none =>
      obtain ⟨message, herror⟩ := parse_of_none hv hv'
      cases herror.symm.trans h
    | some v =>
      rw [parse_of_repair hv hv'] at h
      obtain ⟨payload, hpayload, rfl⟩ := exists_payload_of_ok h
      refine ⟨?_, v, hv', hpayload⟩
      cases hextent : extent (CodePoint.scalar '\x7b' :: t) with
      | closed object =>
        -- repair does not help a closed object
        have hsame : decodeWithin? limit (repair object) = decodeWithin? limit object :=
          Json.Reader.decodeWithin?_repair_of_extent hextent
        rw [candidate_of_closed ht hextent] at hv hv'
        rw [hsame, hv] at hv'
        cases hv'
      | unclosed depth =>
        exact Json.Reader.isWholeObject_repair hextent (candidate_of_unclosed ht hextent) hv'

/-- The text that a payload was read from is its own candidate and lacks nothing, and it is read as
the same payload, without repair. -/
theorem parse_candidate_eq {reply : Text} {parsed : Parsed}
    (h : (parse limit reply).value = .ok parsed) :
    candidate parsed.candidate = parsed.candidate ∧ repair parsed.candidate = parsed.candidate ∧
      (parse limit parsed.candidate).value = .ok { parsed with repaired := false } := by
  obtain ⟨hwhole, v, hv, hpayload⟩ := isWholeObject_of_parse_ok h
  have hcandidate := hwhole.candidate_eq
  refine ⟨hcandidate, Json.Reader.repair_of_decodeWithin? hv, ?_⟩
  have hread : decodeWithin? limit (candidate parsed.candidate) = some v := by rw [hcandidate, hv]
  rw [parse_of_candidate hread, hpayload, hcandidate]
  rfl

/-- A reply that was cut off inside a string, with a fence behind it. -/
theorem parse_candidate_eq_truncated :
    (parse Json.maxNesting "Sure: \x7b\"components\": [], \"note\": [\"a\\ ```").value =
        .ok ⟨⟨"1.0", []⟩, true, "\x7b\"components\": [], \"note\": [\"a\\\\\"]\x7d"⟩ ∧
      (parse Json.maxNesting "\x7b\"components\": [], \"note\": [\"a\\\\\"]\x7d").value =
        .ok ⟨⟨"1.0", []⟩, false, "\x7b\"components\": [], \"note\": [\"a\\\\\"]\x7d"⟩ := by
  have hparsed :
      (parse Json.maxNesting "Sure: \x7b\"components\": [], \"note\": [\"a\\ ```").value = .ok
        ⟨⟨"1.0", []⟩, true, "\x7b\"components\": [], \"note\": [\"a\\\\\"]\x7d"⟩ := by
    rfl
  exact ⟨hparsed, (parse_candidate_eq hparsed).2.2⟩

end Reply

end AgentPanel
