import AgentPanel.Proofs.Reply.DeepCut
import AgentPanel.Reply.Level
import AgentPanel.Reply.Sweep

/-!
# The cut in place

Visiting the components of a decoded reply one by one, with a stack for those that wait, ends, and
ends with the reply that the recursive cut makes and with its count (`Reply.Sweep.reaches_cutDeep`).

What one visit starts is finished before anything that waited before is visited: from a stack with a
place on top, the walk comes to the stack below it, with the value at the place cut. That is proved
along the value, in any reply that has the value at the place.
-/

namespace AgentPanel

open Json (Value Members Pointer PointerStep)

/-! ## Setting a key -/

namespace Keyed

variable {α : Type} {key : Text} {a b : α} {values : Keyed α}

theorem set_set (key : Text) (a b : α) (values : Keyed α) :
    set key b (set key a values) = set key b values := by
  induction values with
  | nil =>
    show (if key = key then [(key, b)] else _) = [(key, b)]
    rw [if_pos rfl]
  | cons first values ih =>
    obtain ⟨k, c⟩ := first
    rw [set, set]
    by_cases hk : k = key
    · rw [if_pos hk, if_pos hk, set, if_pos hk]
    · rw [if_neg hk, if_neg hk, set, if_neg hk, ih]

theorem modify_eq_set {f : α → α} (h : get? key values = some a) :
    modify key f values = set key (f a) values := by
  induction values with
  | nil => cases h
  | cons first values ih =>
    obtain ⟨k, c⟩ := first
    rw [get?] at h
    rw [modify, set]
    by_cases hk : k = key
    · rw [if_pos hk] at h ⊢
      cases h
      rw [if_pos hk]
    · rw [if_neg hk] at h ⊢
      rw [if_neg hk, ih h]

theorem modify_eq_self {f : α → α} (h : ∀ a, get? key values = some a → f a = a) :
    modify key f values = values := by
  induction values with
  | nil => rfl
  | cons first values ih =>
    obtain ⟨k, c⟩ := first
    rw [modify]
    by_cases hk : k = key
    · have hc : f c = c := h c (by rw [get?, if_pos hk])
      rw [if_pos hk, hc]
    · rw [if_neg hk, ih]
      intro a ha
      apply h a
      rw [get?, if_neg hk, ha]

theorem set_eq_self (h : get? key values = some a) : set key a values = values := by
  have hset : modify key id values = set key a values := modify_eq_set h
  rw [← hset]
  exact modify_eq_self fun _ _ => rfl

end Keyed

/-! ## Putting a part into a value -/

namespace Json.Value

variable {v a b : Value} {step : PointerStep} {p q : Pointer}

theorem part?_setPart (h : v.part? step = some a) : (v.setPart step b).part? step = some b := by
  cases v with
  | object members =>
    cases step with
    | key key =>
      show Keyed.get? key (Keyed.set key b members) = some b
      rw [Keyed.get?_set, if_pos rfl]
    | item index => cases h
  | array items =>
    cases step with
    | key key => cases h
    | item index =>
      have hindex : index < items.length := (List.getElem?_eq_some_iff.mp h).1
      show (items.set index b)[index]? = some b
      rw [List.getElem?_set_self hindex]
  | _ => cases h

theorem setPart_setPart : (v.setPart step a).setPart step b = v.setPart step b := by
  cases v with
  | object members =>
    cases step with
    | key key => exact congrArg object (Keyed.set_set key a b members)
    | item index => rfl
  | array items =>
    cases step with
    | key key => rfl
    | item index => exact congrArg array (List.set_set a)
  | _ => rfl

theorem setPart_self (h : v.part? step = some a) : v.setPart step a = v := by
  cases v with
  | object members =>
    cases step with
    | key key => exact congrArg object (Keyed.set_eq_self h)
    | item index => cases h
  | array items =>
    cases step with
    | key key => cases h
    | item index =>
      obtain ⟨hindex, hitem⟩ := List.getElem?_eq_some_iff.mp h
      show array (items.set index a) = array items
      rw [← hitem, List.set_getElem_self]
  | _ => cases h

theorem part?_item (before : List Value) (v : Value) (after : List Value) :
    (array (before ++ v :: after)).part? (.item before.length) = some v := by
  show (before ++ v :: after)[before.length]? = some v
  rw [List.getElem?_append_right (Nat.le_refl _), Nat.sub_self]
  rfl

theorem setPart_item (before : List Value) (v w : Value) (after : List Value) :
    (array (before ++ v :: after)).setPart (.item before.length) w =
      array (before ++ w :: after) := by
  show array ((before ++ v :: after).set before.length w) = _
  rw [List.set_append_right _ _ (Nat.le_refl _), Nat.sub_self]
  rfl

theorem put_cons (h : v.part? step = some a) :
    v.put (step :: p) b = v.setPart step (a.put p b) := by
  rw [put, h]

/-- What leads on after the first step. -/
theorem exists_part_of_at?_cons (h : v.at? (step :: p) = some b) :
    ∃ part, v.part? step = some part ∧ part.at? p = some b :=
  Option.bind_eq_some_iff.mp h

theorem at?_append (v : Value) (p q : Pointer) :
    v.at? (p ++ q) = (v.at? p).bind fun part => part.at? q := by
  induction p generalizing v with
  | nil => rfl
  | cons step p ih =>
    rw [List.cons_append, at?, at?]
    cases v.part? step with
    | none => rfl
    | some part => exact ih part

theorem at?_put (h : v.at? p = some a) : (v.put p b).at? p = some b := by
  induction p generalizing v with
  | nil => rfl
  | cons step p ih =>
    obtain ⟨part, hpart, hrest⟩ := exists_part_of_at?_cons h
    rw [put_cons hpart, at?, part?_setPart hpart]
    exact ih hrest

theorem put_put (h : v.at? p = some a) : (v.put p b).put p c = v.put p c := by
  induction p generalizing v with
  | nil => rfl
  | cons step p ih =>
    obtain ⟨part, hpart, hrest⟩ := exists_part_of_at?_cons h
    rw [put_cons hpart, put_cons (part?_setPart hpart), setPart_setPart, ih hrest, put_cons hpart]

theorem put_self (h : v.at? p = some a) : v.put p a = v := by
  induction p generalizing v with
  | nil => exact (Option.some.inj h).symm
  | cons step p ih =>
    obtain ⟨part, hpart, hrest⟩ := exists_part_of_at?_cons h
    rw [put_cons hpart, ih hrest, setPart_self hpart]

theorem put_append (h : v.at? p = some a) : v.put (p ++ q) b = v.put p (a.put q b) := by
  induction p generalizing v with
  | nil =>
    cases h
    rfl
  | cons step p ih =>
    obtain ⟨part, hpart, hrest⟩ := exists_part_of_at?_cons h
    rw [List.cons_append, put_cons hpart, put_cons hpart, ih hrest]

end Json.Value

namespace Reply

/-! ## The children of one component -/

variable {level : Nat} {members : Members} {items : List Value} {child : Value} {rest : List Value}

theorem hasChildren_iff : hasChildren members = true ↔
    ∃ child rest, Keyed.get? "children" members = some (.array (child :: rest)) := by
  rw [hasChildren]
  split
  · rename_i items hget
    rw [hget]
    cases items <;> simp
  · rename_i hnot
    refine ⟨nofun, ?_⟩
    rintro ⟨child, rest, hget⟩
    exact absurd hget (hnot _)

theorem get?_ne_of_childless (h : hasChildren members = false) (child : Value)
    (rest : List Value) : Keyed.get? "children" members ≠ some (.array (child :: rest)) := by
  intro hget
  have hhas : hasChildren members = true := hasChildren_iff.mpr ⟨child, rest, hget⟩
  rw [h] at hhas
  cases hhas

theorem countMemberCuts_eq (level : Nat) (members : Members) :
    countMemberCuts level members =
      ((Keyed.get? "children" members).map (countChildCuts level)).getD 0 := by
  induction members with
  | nil => rfl
  | cons first members ih =>
    obtain ⟨key, v⟩ := first
    rw [countMemberCuts, Keyed.get?]
    by_cases hkey : key = "children"
    · rw [if_pos hkey, if_pos hkey]
      rfl
    · rw [if_neg hkey, if_neg hkey, ih]

theorem cutMembers_eq_set (hget : Keyed.get? "children" members = some (.array items)) :
    cutMembers level members =
      Keyed.set "children"
        (.array (if deepestLevel ≤ level then [] else cutItems (level + 1) items)) members := by
  rw [cutMembers_eq_modify, Keyed.modify_eq_set hget, cutChildren]

theorem cutMembers_eq_self (h : hasChildren members = false) :
    cutMembers level members = members := by
  rw [cutMembers_eq_modify]
  apply Keyed.modify_eq_self
  intro children hchildren
  cases children with
  | array items =>
    cases items with
    | nil => rw [cutChildren, cutItems, ite_self]
    | cons child rest => exact absurd hchildren (get?_ne_of_childless h child rest)
  | _ => rfl

theorem countMemberCuts_eq_zero (h : hasChildren members = false) :
    countMemberCuts level members = 0 := by
  rw [countMemberCuts_eq]
  cases hchildren : Keyed.get? "children" members with
  | none => rfl
  | some children =>
    cases children with
    | array items =>
      cases items with
      | nil =>
        show countChildCuts level (.array []) = 0
        rw [countChildCuts, countItemCuts, List.isEmpty_nil, if_pos rfl, ite_self]
      | cons child rest => exact absurd hchildren (get?_ne_of_childless h child rest)
    | _ => rfl

namespace Sweep

/-! ## Runs -/

/-- Some visits lead from one state of the walk to the other. -/
def Reaches (s t : Sweep) : Prop := ∃ visits, s.after visits = t

theorem after_add (s : Sweep) (m n : Nat) : s.after (m + n) = (s.after m).after n := by
  induction m generalizing s with
  | zero => rw [Nat.zero_add, after]
  | succ m ih => rw [Nat.succ_add, after, ih, after]

theorem Reaches.trans {s t u : Sweep} (hst : Reaches s t) (htu : Reaches t u) : Reaches s u := by
  obtain ⟨m, rfl⟩ := hst
  obtain ⟨n, rfl⟩ := htu
  exact ⟨m + n, after_add s m n⟩

theorem Reaches.refl (s : Sweep) : Reaches s s := ⟨0, rfl⟩

theorem reaches_of_next {s t : Sweep} (h : s.next = t) : Reaches s t := ⟨1, h⟩

/-! ## One visit -/

variable {document : Value} {here : Place} {pending : List Place} {cuts : Nat}

theorem next_of_not_object {v : Value} (hat : document.at? here.pointer = some v)
    (hv : ∀ members, v ≠ .object members) :
    next ⟨document, here :: pending, cuts⟩ = ⟨document, pending, cuts⟩ := by
  rw [next, hat]
  cases v with
  | object members => exact absurd rfl (hv members)
  | _ => rfl

theorem next_of_childless (hat : document.at? here.pointer = some (.object members))
    (h : hasChildren members = false) :
    next ⟨document, here :: pending, cuts⟩ = ⟨document, pending, cuts⟩ := by
  simp only [next, hat]
  split
  · exact absurd ‹_› (get?_ne_of_childless h _ _)
  · rfl

theorem next_of_last (hat : document.at? here.pointer = some (.object members))
    (hget : Keyed.get? "children" members = some (.array (child :: rest)))
    (hlevel : deepestLevel ≤ here.level) :
    next ⟨document, here :: pending, cuts⟩ =
      ⟨document.put here.pointer (.object (Keyed.set "children" (.array []) members)), pending,
        cuts + 1⟩ := by
  simp only [next, hat, hget, if_pos hlevel]

theorem next_of_not_last (hat : document.at? here.pointer = some (.object members))
    (hget : Keyed.get? "children" members = some (.array (child :: rest)))
    (hlevel : ¬deepestLevel ≤ here.level) :
    next ⟨document, here :: pending, cuts⟩ =
      ⟨document, places (here.pointer ++ [.key "children"]) (here.level + 1) 0 (child :: rest) ++
        pending, cuts⟩ := by
  simp only [next, hat, hget, if_neg hlevel]

/-! ## What a visit starts -/

/-- From a place where the value stands at the level, the walk comes to what waits below that place
with the value cut. -/
def CutsNode (level : Nat) (v : Value) : Prop :=
  ∀ (document : Value) (pointer : Pointer) (pending : List Place) (cuts : Nat),
    document.at? pointer = some v →
      Reaches ⟨document, ⟨pointer, level⟩ :: pending, cuts⟩
        ⟨document.put pointer (cutNode level v), pending, cuts + countCuts level v⟩

/-- The same for the places of items at the end of an array. -/
def CutsItems (level : Nat) (items : List Value) : Prop :=
  ∀ (document : Value) (pointer : Pointer) (before : List Value) (pending : List Place)
    (cuts : Nat), document.at? pointer = some (.array (before ++ items)) →
      Reaches ⟨document, places pointer level before.length items ++ pending, cuts⟩
        ⟨document.put pointer (.array (before ++ cutItems level items)), pending,
          cuts + countItemCuts level items⟩

theorem cutsNode_of_not_object {v : Value} (hv : ∀ members, v ≠ .object members) :
    CutsNode level v := by
  intro document pointer pending cuts hat
  have hcut : cutNode level v = v ∧ countCuts level v = 0 := by
    cases v with
    | object members => exact absurd rfl (hv members)
    | _ => exact ⟨rfl, rfl⟩
  rw [hcut.1, hcut.2, Json.Value.put_self hat, Nat.add_zero]
  exact reaches_of_next (next_of_not_object hat hv)

theorem cutsNode_of_childless (h : hasChildren members = false) :
    CutsNode level (.object members) := by
  intro document pointer pending cuts hat
  rw [cutNode, countCuts, cutMembers_eq_self h, countMemberCuts_eq_zero h,
    Json.Value.put_self hat, Nat.add_zero]
  exact reaches_of_next (next_of_childless hat h)

theorem cutsNode_of_children
    (hget : Keyed.get? "children" members = some (.array (child :: rest)))
    (hitems : CutsItems (level + 1) (child :: rest)) : CutsNode level (.object members) := by
  intro document pointer pending cuts hat
  rw [cutNode, countCuts, cutMembers_eq_set hget, countMemberCuts_eq, hget, Option.map_some,
    Option.getD_some, countChildCuts]
  by_cases hlevel : deepestLevel ≤ level
  · rw [if_pos hlevel, if_pos hlevel]
    exact reaches_of_next (next_of_last hat hget hlevel)
  · rw [if_neg hlevel, if_neg hlevel]
    apply (reaches_of_next (next_of_not_last hat hget hlevel)).trans
    -- the children wait as items of the array under their key
    have hchildren : document.at? (pointer ++ [.key "children"]) =
        some (.array (child :: rest)) := by
      rw [Json.Value.at?_append, hat]
      show (Keyed.get? "children" members).bind _ = _
      rw [hget]
      rfl
    have hput : ∀ v, document.put (pointer ++ [.key "children"]) v =
        document.put pointer (.object (Keyed.set "children" v members)) := by
      intro v
      rw [Json.Value.put_append hat]
      congr 1
      exact Json.Value.put_cons hget
    rw [← hput]
    exact hitems document (pointer ++ [.key "children"]) [] pending cuts hchildren

theorem cutsItems_nil : CutsItems level [] := by
  intro document pointer before pending cuts hat
  rw [cutItems, Json.Value.put_self hat]
  exact Reaches.refl _

theorem cutsItems_cons {v : Value} (hv : CutsNode level v) (hrest : CutsItems level rest) :
    CutsItems level (v :: rest) := by
  intro document pointer before pending cuts hat
  -- the last item is on top of the stack, so all others are visited before the first one
  have hsplit : document.at? pointer = some (.array (before ++ [v] ++ rest)) := by
    rw [hat, List.append_assoc, List.singleton_append]
  have hothers := hrest document pointer (before ++ [v])
    (⟨pointer ++ [.item before.length], level⟩ :: pending) cuts hsplit
  rw [List.length_append, List.length_singleton, List.append_assoc, List.singleton_append]
    at hothers
  have hput : (document.put pointer (.array (before ++ v :: cutItems level rest))).at? pointer =
      some (.array (before ++ v :: cutItems level rest)) := Json.Value.at?_put hat
  have hitem := Json.Value.part?_item before v (cutItems level rest)
  have hat' : (document.put pointer (.array (before ++ v :: cutItems level rest))).at?
      (pointer ++ [.item before.length]) = some v := by
    rw [Json.Value.at?_append, hput, Option.bind_some, Json.Value.at?, hitem]
    rfl
  have hfirst := hv _ _ pending (cuts + countItemCuts level rest) hat'
  rw [Json.Value.put_append hput, Json.Value.put_put hat, Json.Value.put_cons hitem,
    Json.Value.put, Json.Value.setPart_item] at hfirst
  rw [places, List.append_assoc, List.singleton_append, cutItems, countItemCuts,
    Nat.add_comm (countCuts level v), ← Nat.add_assoc]
  exact hothers.trans hfirst

mutual

/-- What one visit starts ends with the value at its place cut. -/
theorem cutsNode (level : Nat) : ∀ v : Value, CutsNode level v
  | .object members => by
    cases hhas : hasChildren members with
    | true =>
      obtain ⟨child, rest, hget⟩ := hasChildren_iff.mp hhas
      exact cutsNode_of_children hget (cutsItems_of_get? (level + 1) members hget)
    | false => exact cutsNode_of_childless hhas
  | .null | .bool _ | .int _ | .float _ | .text _ | .array _ =>
    cutsNode_of_not_object (by intro members h; cases h)

theorem cutsItems_of_get? (level : Nat) : ∀ (members : List (Text × Value)) {items : List Value},
    Keyed.get? "children" members = some (.array items) → CutsItems level items
  | [], _, h => by cases h
  | (key, v) :: rest, items, h => by
    rw [Keyed.get?] at h
    by_cases hkey : key = "children"
    · rw [if_pos hkey] at h
      cases v with
      | array inner =>
        cases h
        exact cutsItems level items
      | _ => cases h
    · rw [if_neg hkey] at h
      exact cutsItems_of_get? level rest h

theorem cutsItems (level : Nat) : ∀ items : List Value, CutsItems level items
  | [] => cutsItems_nil
  | v :: rest => cutsItems_cons (cutsNode level v) (cutsItems level rest)

end

/-! ## The whole walk -/

/-- The walk ends. It ends with the reply that the recursive cut makes and with its count. -/
theorem reaches_cutDeep (reply : Members) :
    Reaches (start reply) ⟨.object (cutDeep reply), [], cutCount reply⟩ := by
  rw [cutDeep_eq_modify]
  by_cases hroots : ∃ roots, Keyed.get? "components" reply = some (.array roots)
  · obtain ⟨roots, hroots⟩ := hroots
    have hat : (Value.object reply).at? [.key "components"] = some (.array roots) := by
      show (Keyed.get? "components" reply).bind _ = _
      rw [hroots]
      rfl
    have hput : (Value.object reply).put [.key "components"] (.array (cutItems 1 roots)) =
        .object (Keyed.modify "components" cutRoots reply) := by
      rw [Keyed.modify_eq_set hroots]
      exact Json.Value.put_cons hroots
    have hrun := cutsItems 1 roots (.object reply) [.key "components"] [] [] 0 hat
    rw [List.append_nil, List.nil_append, hput, Nat.zero_add] at hrun
    simp only [start, cutCount, hroots]
    exact hrun
  · have hkept : Keyed.modify "components" cutRoots reply = reply := by
      apply Keyed.modify_eq_self
      intro v hv
      cases v with
      | array roots => exact absurd ⟨roots, hv⟩ hroots
      | _ => rfl
    have hstart : start reply = ⟨.object reply, [], 0⟩ := by
      rw [start]
      split
      · exact absurd ⟨_, ‹_›⟩ hroots
      · rfl
    have hcount : cutCount reply = 0 := by
      rw [cutCount]
      split
      · exact absurd ⟨_, ‹_›⟩ hroots
      · rfl
    rw [hkept, hstart, hcount]
    exact Reaches.refl _

end Sweep

end Reply

end AgentPanel
