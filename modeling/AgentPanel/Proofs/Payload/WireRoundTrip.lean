import AgentPanel.Proofs.Payload.WireFaults
import AgentPanel.Proofs.Reader.Documents
import AgentPanel.Proofs.Reply.DistinctNames
import AgentPanel.Proofs.Results

/-!
# There and back on the wire

A payload that was read from a reply comes back from its wire form as it was, but with null for the
numbers that are not finite, as long as no key in its properties has a lone surrogate and it nests
no deeper than the wire bears (`Reply.toWire_of_parse`).

The wire form describes the finite payload, in the sense of the grammar, so the check of the wire
form gives it. That needs the names of each component's properties to be distinct, which they are
because the reply was decoded.
-/

namespace AgentPanel

open Json (Value Members)

/-! ## Making finite twice -/

namespace Json.Value

mutual

theorem finite_finite : ∀ v : Value, v.finite.finite = v.finite
  | .float x => by
    rw [finite]
    by_cases hx : x.isFinite = true
    · rw [if_pos hx, finite, if_pos hx]
    · rw [if_neg hx]
      rfl
  | .array items => by rw [finite, finite, finiteItems_finiteItems items]
  | .object members => by rw [finite, finite, finiteMembers_finiteMembers members]
  | .null | .bool _ | .int _ | .text _ => rfl

theorem finiteItems_finiteItems : ∀ items : List Value,
    finiteItems (finiteItems items) = finiteItems items
  | [] => rfl
  | v :: rest => by rw [finiteItems, finiteItems, finite_finite v, finiteItems_finiteItems rest]

theorem finiteMembers_finiteMembers : ∀ members : List (Text × Value),
    finiteMembers (finiteMembers members) = finiteMembers members
  | [] => rfl
  | (key, v) :: rest => by
    rw [finiteMembers, finiteMembers, finite_finite v, finiteMembers_finiteMembers rest]

end

end Json.Value

/-! ## The finite payload has the same wire form -/

namespace Json.Value

mutual

theorem wireFault?_finite (room : Nat) : ∀ v : Value, v.finite.wireFault? room = v.wireFault? room
  | .float x => by
    rw [finite]
    by_cases hx : x.isFinite = true
    · rw [if_pos hx]
    · rw [if_neg hx]
      cases room <;> rfl
  | .array items => by
    cases room with
    | zero => rfl
    | succ room => exact itemsFault?_finiteItems room items
  | .object members => by
    cases room with
    | zero => rfl
    | succ room => exact membersFault?_finiteMembers room members
  | .null | .bool _ | .int _ | .text _ => rfl

theorem itemsFault?_finiteItems (room : Nat) : ∀ items : List Value,
    itemsFault? room (finiteItems items) = itemsFault? room items
  | [] => rfl
  | v :: rest => by
    rw [finiteItems, itemsFault?, itemsFault?, wireFault?_finite room v,
      itemsFault?_finiteItems room rest]

theorem membersFault?_finiteMembers (room : Nat) : ∀ members : List (Text × Value),
    membersFault? room (finiteMembers members) = membersFault? room members
  | [] => rfl
  | (key, v) :: rest => by
    rw [finiteMembers, membersFault?, membersFault?, wireFault?_finite room v,
      membersFault?_finiteMembers room rest]

end

theorem finiteMembers_eq_map (members : Members) :
    finiteMembers members = members.map fun (key, v) => (key, v.finite) := by
  induction members with
  | nil => rfl
  | cons first rest ih => rw [finiteMembers, ih, List.map_cons]

theorem keys_finiteMembers (members : Members) :
    Keyed.keys (finiteMembers members) = Keyed.keys members := by
  rw [finiteMembers_eq_map, Keyed.keys, Keyed.keys, List.map_map]
  rfl

end Json.Value

namespace Component

theorem propsFault?_finiteMembers (room : Nat) (props : Members) :
    propsFault? room (Value.finiteMembers props) = propsFault? room props := by
  rw [propsFault?, propsFault?, Value.finiteMembers_eq_map, List.findSome?_map]
  congr 1
  funext member
  exact Value.wireFault?_finite room member.2

theorem wireProps_finiteMembers (props : Members) :
    wireProps (Value.finiteMembers props) = wireProps props := by
  rw [wireProps, wireProps, Value.finiteMembers_finiteMembers]

mutual

theorem wireFault?_finite (room : Nat) : ∀ c : Component,
    c.finite.wireFault? room = c.wireFault? room
  | ⟨id, type, props, children⟩ => by
    rw [finite, wireFault?, wireFault?, propsFault?_finiteMembers,
      wireFaultAll?_finiteAll room children]

theorem wireFaultAll?_finiteAll (room : Nat) : ∀ cs : List Component,
    wireFaultAll? room (finiteAll cs) = wireFaultAll? room cs
  | [] => rfl
  | c :: rest => by
    cases room with
    | zero => rfl
    | succ room =>
      rw [finiteAll, wireFaultAll?, wireFaultAll?, wireFault?_finite room c,
        wireFaultAll?_finiteAll (room + 1) rest]

end

mutual

theorem wireForm_finite : ∀ c : Component, c.finite.wireForm = c.wireForm
  | ⟨id, type, props, children⟩ => by
    rw [finite, wireForm, wireForm, wireProps_finiteMembers, wireForms_finiteAll children]

theorem wireForms_finiteAll : ∀ cs : List Component, wireForms (finiteAll cs) = wireForms cs
  | [] => rfl
  | c :: rest => by
    rw [finiteAll, wireForms, wireForms, wireForm_finite c, wireForms_finiteAll rest]

end

end Component

theorem Payload.toWire_finite (p : Payload) : p.finite.toWire = p.toWire := by
  rw [toWire, toWire, finite, Component.wireFaultAll?_finiteAll, wireForm, wireForm,
    Component.wireForms_finiteAll]

/-! ## The wire form describes the finite payload -/

theorem Keyed.overlay_eq_append {α : Type} {done new : Keyed α}
    (h : (Keyed.keys (done ++ new)).Nodup) : done.overlay new = done ++ new := by
  induction new generalizing done with
  | nil => exact (List.append_nil done).symm
  | cons first rest ih =>
    obtain ⟨key, a⟩ := first
    have hkey : key ∉ Keyed.keys done := by
      intro hmem
      rw [Keyed.keys, List.map_append] at h
      exact (List.nodup_append.mp h).2.2 key hmem key List.mem_cons_self rfl
    have hset : Keyed.set key a done = done ++ [(key, a)] := Json.Keyed.set_of_not_mem a hkey
    show (Keyed.set key a done).overlay rest = _
    rw [hset, ih]
    · rw [List.append_assoc, List.singleton_append]
    · rw [List.append_assoc, List.singleton_append]
      exact h

theorem Json.Value.mem_memberKeys {key : Text} {members : Members} (h : key ∈ members.keys) :
    key ∈ memberKeys members := by
  induction members with
  | nil => cases h
  | cons first rest ih =>
    obtain ⟨k, v⟩ := first
    rw [memberKeys]
    rcases List.mem_cons.mp h with rfl | hrest
    · exact List.mem_cons_self
    · exact List.mem_cons_of_mem _ (List.mem_append_right _ (ih hrest))

namespace Component

/-- The properties of a component pass the wire: no name stands twice, and no key has a lone
surrogate. -/
structure Passes (c : Component) : Prop where
  nodup : c.props.keys.Nodup
  keys : ∀ key ∈ Value.memberKeys c.props, key.HasNoSurrogate

theorem Passes.wireProps_eq {c : Component} (h : c.Passes) :
    wireProps c.props = Value.finiteMembers c.props := by
  have hnames : (Value.finiteMembers c.props).map (fun (name, v) =>
      (Text.withReplacedSurrogates name, v)) = Value.finiteMembers c.props := by
    refine (List.map_congr_left ?_).trans (List.map_id _)
    intro member hmem
    have hname : member.1 ∈ Keyed.keys c.props := by
      rw [← Value.keys_finiteMembers]
      exact List.mem_map_of_mem hmem
    have hsame := (h.keys _ (Value.mem_memberKeys hname)).withReplacedSurrogates_eq
    exact congrArg (·, member.2) hsame
  -- no name stands twice, so none takes the place of another
  rw [wireProps, hnames, Keyed.overlay_eq_append]
  · rfl
  · rw [List.nil_append, Value.keys_finiteMembers]
    exact h.nodup

mutual

theorem describes_wireForm : ∀ c : Component, (∀ n ∈ c.preorder, n.Passes) →
    Describes c.wireForm c.finite
  | ⟨id, type, props, children⟩, h => by
    rw [preorder, List.forall_mem_cons] at h
    rw [wireForm, finite, ← h.1.wireProps_eq]
    exact .object rfl (.text id) rfl (.object rfl) (.array rfl (describeAll_wireForms children h.2))

theorem describeAll_wireForms : ∀ cs : List Component, (∀ n ∈ preorderAll cs, n.Passes) →
    DescribeAll (wireForms cs) (finiteAll cs)
  | [], _ => .nil
  | c :: rest, h => by
    rw [preorderAll, List.forall_mem_append] at h
    exact .cons (describes_wireForm c h.1) (describeAll_wireForms rest h.2)

end

mutual

theorem ids_finite : ∀ c : Component,
    c.finite.preorder.map Component.id = c.preorder.map Component.id
  | ⟨id, type, props, children⟩ => by
    rw [finite, preorder, preorder, List.map_cons, List.map_cons, ids_finiteAll children]

theorem ids_finiteAll : ∀ cs : List Component,
    (preorderAll (finiteAll cs)).map Component.id = (preorderAll cs).map Component.id
  | [] => rfl
  | c :: rest => by
    rw [finiteAll, preorderAll, preorderAll, List.map_append, List.map_append, ids_finite c,
      ids_finiteAll rest]

end

mutual

theorem height_finite_le : ∀ c : Component, c.finite.height ≤ c.levels
  | ⟨id, type, props, children⟩ => by
    rw [finite, height, levels]
    have hchildren := heightAll_finiteAll_le children
    omega

theorem heightAll_finiteAll_le : ∀ cs : List Component, heightAll (finiteAll cs) ≤ levelsAll cs
  | [] => Nat.le_refl 0
  | c :: rest => by
    rw [finiteAll, heightAll, levelsAll]
    have hhead := height_finite_le c
    have hrest := heightAll_finiteAll_le rest
    omega

end

end Component

namespace Payload

/-- The check of the wire form gives the finite payload. -/
theorem check_wireForm {p : Payload} (hids : p.ids.Nodup) (hpasses : ∀ n ∈ p.nodes, n.Passes)
    (hlevels : p.levels ≤ nestingLimit) : check p.wireForm = .valid p.finite := by
  rw [nodes_eq_preorderAll] at hpasses
  refine (check_eq_valid_iff_describes p.wireForm p.finite).mpr ⟨?_, ?_⟩
  · refine .object (.given rfl (.text p.version)) rfl ?_ ?_
    · exact Component.describeAll_wireForms p.components hpasses
    · rw [Component.ids_finiteAll, ← nodes_eq_preorderAll]
      exact hids
  · exact Nat.le_trans (Component.heightAll_finiteAll_le p.components) hlevels

end Payload

/-! ## Numbers that are finite -/

namespace Json.Value

mutual

theorem finite_eq_self : ∀ v : Value, (∀ x ∈ v.doubles, x.isFinite = true) → v.finite = v
  | .float x, h => by
    rw [finite, if_pos (h x (List.mem_singleton_self x))]
  | .array items, h => by rw [finite, finiteItems_eq_self items h]
  | .object members, h => by rw [finite, finiteMembers_eq_self members h]
  | .null, _ | .bool _, _ | .int _, _ | .text _, _ => rfl

theorem finiteItems_eq_self : ∀ items : List Value, (∀ x ∈ itemDoubles items, x.isFinite = true) →
    finiteItems items = items
  | [], _ => rfl
  | v :: rest, h => by
    rw [itemDoubles, List.forall_mem_append] at h
    rw [finiteItems, finite_eq_self v h.1, finiteItems_eq_self rest h.2]

theorem finiteMembers_eq_self : ∀ members : List (Text × Value),
    (∀ x ∈ memberDoubles members, x.isFinite = true) → finiteMembers members = members
  | [], _ => rfl
  | (key, v) :: rest, h => by
    rw [memberDoubles, List.forall_mem_append] at h
    rw [finiteMembers, finite_eq_self v h.1, finiteMembers_eq_self rest h.2]

end

end Json.Value

namespace Component

mutual

theorem finite_eq_self : ∀ c : Component,
    (∀ n ∈ c.preorder, ∀ x ∈ Value.memberDoubles n.props, x.isFinite = true) → c.finite = c
  | ⟨id, type, props, children⟩, h => by
    rw [preorder, List.forall_mem_cons] at h
    rw [finite, Value.finiteMembers_eq_self props h.1, finiteAll_eq_self children h.2]

theorem finiteAll_eq_self : ∀ cs : List Component,
    (∀ n ∈ preorderAll cs, ∀ x ∈ Value.memberDoubles n.props, x.isFinite = true) →
      finiteAll cs = cs
  | [], _ => rfl
  | c :: rest, h => by
    rw [preorderAll, List.forall_mem_append] at h
    rw [finiteAll, finite_eq_self c h.1, finiteAll_eq_self rest h.2]

end

end Component

theorem Payload.finite_eq_self {p : Payload} (h : ∀ x ∈ p.doubles, x.isFinite = true) :
    p.finite = p := by
  rw [finite, Component.finiteAll_eq_self]
  intro n hn x hx
  rw [← nodes_eq_preorderAll] at hn
  exact h x (List.mem_flatMap.mpr ⟨n, hn, hx⟩)

namespace Reply

/-! ## Replies there and back -/

variable {limit : Nat} {reply : Text} {parsed : Parsed}

/-- A payload that was read from a reply, with no lone surrogate in a key of its properties, has a
wire form unless it nests too deeply. The check of the wire form gives the payload with null for
each number that is not finite, which is the payload itself if there is none, and the wire form of
that is the same again. -/
theorem toWire_of_parse (h : (parse limit reply).value = .ok parsed)
    (hkeys : ∀ key ∈ parsed.payload.keys, key.HasNoSurrogate) :
    (parsed.payload.levels ≤ nestingLimit → ∃ wire, parsed.payload.toWire = .ok wire ∧
      Payload.check wire = .valid parsed.payload.finite ∧
      parsed.payload.finite.toWire = .ok wire) ∧
    (nestingLimit < parsed.payload.levels → parsed.payload.toWire = .error .tooDeep) ∧
    ((∀ x ∈ parsed.payload.doubles, x.isFinite = true) →
      parsed.payload.finite = parsed.payload) := by
  obtain ⟨hids, hnames⟩ := nodup_of_parse h
  have hwire := Payload.toWire_eq hkeys
  refine ⟨?_, ?_, Payload.finite_eq_self⟩
  · intro hlevels
    rw [if_pos hlevels] at hwire
    have hpasses : ∀ n ∈ parsed.payload.nodes, n.Passes := by
      intro n hn
      refine ⟨hnames n hn, ?_⟩
      intro key hkey
      exact hkeys key (List.mem_flatMap.mpr ⟨n, hn, hkey⟩)
    have hcheck := Payload.check_wireForm hids hpasses hlevels
    exact ⟨parsed.payload.wireForm, hwire, hcheck, (Payload.toWire_finite _).trans hwire⟩
  · intro hlevels
    rw [hwire, if_neg (Nat.not_le_of_lt hlevels)]

/-- A reply with one component that has one property. -/
def replyWithProperty (value : Text) : Text :=
  "\x7b\"components\":[\x7b\"id\":\"a\",\"type\":\"t\",\"props\":\x7b\"x\":" ++ value ++
    Text.ofString "\x7d\x7d]\x7d"

/-- The payload that such a reply holds. -/
def payloadWithProperty (v : Value) : Payload :=
  ⟨defaultVersion, [⟨"a", "t", [("x", v)], []⟩]⟩

/-- Three numbers, the first of which is not finite. -/
def numbers : Value := .array [.float .nan, .int 1, .float (.ofDecimal false 25 (-1))]

/-- Three numbers go and come back, the first one as null. -/
theorem toWire_of_parse_numbers :
    (parse Json.maxNesting (replyWithProperty "[NaN, 1, 2.5]")).value =
        .ok ⟨payloadWithProperty numbers, false, replyWithProperty "[NaN, 1, 2.5]"⟩ ∧
      (∀ key ∈ (payloadWithProperty numbers).keys, key.HasNoSurrogate) ∧
      (payloadWithProperty numbers).levels ≤ nestingLimit ∧
      ∃ wire, (payloadWithProperty numbers).toWire = .ok wire ∧ Payload.check wire = .valid
        (payloadWithProperty (.array [.null, .int 1, .float (.ofDecimal false 25 (-1))])) := by
  have hparsed : (parse Json.maxNesting (replyWithProperty "[NaN, 1, 2.5]")).value =
      .ok ⟨payloadWithProperty numbers, false, replyWithProperty "[NaN, 1, 2.5]"⟩ :=
    eq_ok_of_toOption (by decide +kernel)
  have hkeys : ∀ key ∈ (payloadWithProperty numbers).keys, key.HasNoSurrogate := by decide +kernel
  have hlevels : (payloadWithProperty numbers).levels ≤ nestingLimit := by decide +kernel
  have hfinite : (payloadWithProperty numbers).finite =
      payloadWithProperty (.array [.null, .int 1, .float (.ofDecimal false 25 (-1))]) := by
    decide +kernel
  obtain ⟨wire, hwire, hcheck, -⟩ := (toWire_of_parse hparsed hkeys).1 hlevels
  exact ⟨hparsed, hkeys, hlevels, wire, hwire, hfinite ▸ hcheck⟩

/-- Three hundred arrays, one inside the other. -/
def arrays : Value := Nat.repeat (fun v => .array [v]) 299 (.array [])

/-- A property that nests too deeply to be written can be read. -/
theorem toWire_arrays_eq_tooDeep :
    (parse Json.maxNesting
        (replyWithProperty (Text.times 300 "[" ++ Text.times 300 "]"))).value = .ok
        ⟨payloadWithProperty arrays, false,
          replyWithProperty (Text.times 300 "[" ++ Text.times 300 "]")⟩ ∧
      (payloadWithProperty arrays).toWire = .error .tooDeep := by
  have hkeys : ∀ key ∈ (payloadWithProperty arrays).keys, key.HasNoSurrogate := by decide +kernel
  have hlevels : ¬(payloadWithProperty arrays).levels ≤ nestingLimit := by decide +kernel
  refine ⟨eq_ok_of_toOption (by decide +kernel), ?_⟩
  rw [Payload.toWire_eq hkeys, if_neg hlevels]

end Reply

end AgentPanel
