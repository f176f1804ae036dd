import AgentPanel.Proofs.Reply.Sweep

/-!
# What the cut of deep subtrees removes

The cut empties the components on the last level and leaves all else alone, whatever the decoded
reply holds at the places of components and of their children (`Reply.cutDeep_empties_lastLevel`).

A level of the cut reply is the level of the reply with the cut of its members, node by node. On the
last level that empties what has children, and above it the shape of every part stays. The count is
the same on every level, so it can be read off the last one, and a cut that counts nothing changes
nothing.
-/

namespace AgentPanel.Reply

open Json (Value Members Pointer PointerStep)

/-! ## Levels -/

/-- The objects among values. -/
def objects (items : List Value) : List Members :=
  items.filterMap fun
    | .object inner => some inner
    | _ => none

/-- The objects among the items of an array; other values have none. -/
def objectsIn : Value → List Members
  | .array items => objects items
  | _ => []

theorem objectsUnder_eq (key : Text) (members : Members) :
    objectsUnder key members = ((Keyed.get? key members).map objectsIn).getD [] := by
  rw [objectsUnder]
  cases Keyed.get? key members with
  | none => rfl
  | some v =>
    cases v with
    | array items =>
      show _ = items.filterMap _
      congr 1
    | _ => rfl

theorem cutItems_eq_map (level : Nat) (items : List Value) :
    cutItems level items = items.map (cutNode level) := by
  induction items with
  | nil => rfl
  | cons v items ih => rw [cutItems, ih, List.map_cons]

theorem objects_cutItems (level : Nat) (items : List Value) :
    objects (cutItems level items) = (objects items).map (cutMembers level) := by
  rw [cutItems_eq_map, objects, objects, List.filterMap_map, List.map_filterMap]
  congr 1
  funext v
  cases v <;> rfl

theorem objectsIn_cutChildren (level : Nat) (v : Value) :
    objectsIn (cutChildren level v) =
      if deepestLevel ≤ level then [] else (objectsIn v).map (cutMembers (level + 1)) := by
  cases v with
  | array items =>
    rw [cutChildren, objectsIn, objectsIn]
    by_cases hlevel : deepestLevel ≤ level
    · rw [if_pos hlevel, if_pos hlevel]
      rfl
    · rw [if_neg hlevel, if_neg hlevel, objects_cutItems]
  | _ => exact (ite_self _).symm

/-- The children of a component are lost on the last level, and cut above it. -/
theorem objectsUnder_cutMembers (level : Nat) (members : Members) :
    objectsUnder "children" (cutMembers level members) =
      if deepestLevel ≤ level then []
      else (objectsUnder "children" members).map (cutMembers (level + 1)) := by
  rw [objectsUnder_eq, objectsUnder_eq, cutMembers_eq_modify, Keyed.get?_modify]
  cases Keyed.get? "children" members with
  | none => exact (ite_self _).symm
  | some v => exact objectsIn_cutChildren level v

theorem objectsUnder_cutDeep (reply : Members) :
    objectsUnder "components" (cutDeep reply) =
      (objectsUnder "components" reply).map (cutMembers 1) := by
  rw [objectsUnder_eq, objectsUnder_eq, cutDeep_eq_modify, Keyed.get?_modify]
  cases Keyed.get? "components" reply with
  | none => rfl
  | some v =>
    cases v with
    | array roots => exact objects_cutItems 1 roots
    | _ => rfl

/-- Down to the last level, a level of the cut reply is that level of the reply, cut. -/
theorem atLevel_cutDeep (reply : Members) (level : Nat) (h : level + 1 ≤ deepestLevel) :
    atLevel (cutDeep reply) (level + 1) =
      (atLevel reply (level + 1)).map (cutMembers (level + 1)) := by
  induction level with
  | zero => exact objectsUnder_cutDeep reply
  | succ level ih =>
    -- the level above is not the last one, so its children are kept
    have hlevel : ¬deepestLevel ≤ level + 1 := by omega
    rw [atLevel, ih (by omega), List.flatMap_map, atLevel, List.map_flatMap]
    congr 1
    funext members
    rw [objectsUnder_cutMembers, if_neg hlevel]

theorem atLevel_cutDeep_lastLevel (reply : Members) :
    atLevel (cutDeep reply) deepestLevel =
      (atLevel reply deepestLevel).map (cutMembers deepestLevel) :=
  atLevel_cutDeep reply (deepestLevel - 1) (by decide)

/-- Below the last level nothing is left. -/
theorem atLevel_cutDeep_eq_nil (reply : Members) (extra : Nat) :
    atLevel (cutDeep reply) (deepestLevel + extra + 1) = [] := by
  induction extra with
  | zero =>
    have hlast : atLevel (cutDeep reply) (deepestLevel + 1) =
        (atLevel (cutDeep reply) deepestLevel).flatMap (objectsUnder "children") := rfl
    rw [Nat.add_zero, hlast, atLevel_cutDeep_lastLevel, List.flatMap_map]
    apply List.flatMap_eq_nil_iff.mpr
    intro members _
    rw [objectsUnder_cutMembers, if_pos (Nat.le_refl _)]
  | succ extra ih =>
    show (atLevel (cutDeep reply) (deepestLevel + extra + 1)).flatMap _ = []
    rw [ih, List.flatMap_nil]

/-! ## The last level -/

/-- The component without its children, if it has any. -/
def emptied (members : Members) : Members :=
  if hasChildren members then Keyed.set "children" (.array []) members else members

theorem cutMembers_lastLevel (members : Members) :
    cutMembers deepestLevel members = emptied members := by
  rw [emptied]
  cases hhas : hasChildren members with
  | true =>
    obtain ⟨child, rest, hget⟩ := hasChildren_iff.mp hhas
    rw [if_pos rfl, cutMembers_eq_set hget, if_pos (Nat.le_refl _)]
  | false => rw [if_neg (by decide), cutMembers_eq_self hhas]

theorem hasChildren_emptied (members : Members) : hasChildren (emptied members) = false := by
  rw [emptied]
  cases hhas : hasChildren members with
  | true =>
    rw [if_pos rfl, hasChildren, Keyed.get?_set, if_pos rfl]
    rfl
  | false => rw [if_neg (by decide), hhas]

/-! ## Counting -/

/-- What components count together. -/
def total (count : Members → Nat) : List Members → Nat
  | [] => 0
  | members :: rest => count members + total count rest

theorem total_append (count : Members → Nat) (nodes others : List Members) :
    total count (nodes ++ others) = total count nodes + total count others := by
  induction nodes with
  | nil => exact (Nat.zero_add _).symm
  | cons members nodes ih => rw [List.cons_append, total, total, ih, Nat.add_assoc]

theorem countItemCuts_eq_total (level : Nat) (items : List Value) :
    countItemCuts level items = total (countMemberCuts level) (objects items) := by
  induction items with
  | nil => rfl
  | cons v items ih =>
    rw [countItemCuts, ih]
    cases v with
    | object members => rfl
    | _ => exact Nat.zero_add _

/-- Above the last level, a component counts what its children count. -/
theorem countMemberCuts_eq_total (level : Nat) (h : level < deepestLevel) (members : Members) :
    countMemberCuts level members =
      total (countMemberCuts (level + 1)) (objectsUnder "children" members) := by
  rw [countMemberCuts_eq, objectsUnder_eq]
  cases Keyed.get? "children" members with
  | none => rfl
  | some v =>
    cases v with
    | array items =>
      show countChildCuts level (.array items) = _
      rw [countChildCuts, if_neg (by omega), countItemCuts_eq_total]
      rfl
    | _ => rfl

theorem countMemberCuts_lastLevel (members : Members) :
    countMemberCuts deepestLevel members = if hasChildren members then 1 else 0 := by
  cases hhas : hasChildren members with
  | true =>
    obtain ⟨child, rest, hget⟩ := hasChildren_iff.mp hhas
    rw [countMemberCuts_eq, hget]
    show countChildCuts deepestLevel (.array (child :: rest)) = 1
    rw [countChildCuts, if_pos (Nat.le_refl _)]
    rfl
  | false => exact countMemberCuts_eq_zero hhas

/-- Every level down to the last one counts the same. -/
theorem cutCount_eq_total (reply : Members) (level : Nat) (h : level + 1 ≤ deepestLevel) :
    cutCount reply = total (countMemberCuts (level + 1)) (atLevel reply (level + 1)) := by
  induction level with
  | zero =>
    show cutCount reply = total (countMemberCuts 1) (objectsUnder "components" reply)
    rw [objectsUnder_eq, cutCount]
    cases Keyed.get? "components" reply with
    | none => rfl
    | some v =>
      cases v with
      | array roots => exact countItemCuts_eq_total 1 roots
      | _ => rfl
  | succ level ih =>
    rw [ih (by omega), atLevel]
    induction atLevel reply (level + 1) with
    | nil => rfl
    | cons members nodes ihnodes =>
      have hchildren := countMemberCuts_eq_total (level + 1) (by omega) members
      rw [List.flatMap_cons, total_append, total, ihnodes, hchildren]

theorem cutCount_eq_length (reply : Members) :
    cutCount reply = ((atLevel reply deepestLevel).filter hasChildren).length := by
  have hlast : cutCount reply =
      total (countMemberCuts deepestLevel) (atLevel reply deepestLevel) :=
    cutCount_eq_total reply (deepestLevel - 1) (by decide)
  rw [hlast]
  induction atLevel reply deepestLevel with
  | nil => rfl
  | cons members nodes ih =>
    rw [total, ih, countMemberCuts_lastLevel, List.filter_cons]
    cases hasChildren members with
    | true => rw [if_pos rfl, if_pos rfl, List.length_cons, Nat.add_comm]
    | false => rw [if_neg (by decide), if_neg (by decide), Nat.zero_add]

/-! ## A cut that counts nothing -/

mutual

theorem cutNode_eq_self (level : Nat) : ∀ v : Value, countCuts level v = 0 → cutNode level v = v
  | .object members, h => by
    rw [cutNode, cutMembers_eq_self_of_count level members h]
  | .null, _ | .bool _, _ | .int _, _ | .float _, _ | .text _, _ | .array _, _ => rfl

theorem cutMembers_eq_self_of_count (level : Nat) : ∀ members : List (Text × Value),
    countMemberCuts level members = 0 → cutMembers level members = members
  | [], _ => rfl
  | (key, v) :: rest, h => by
    rw [countMemberCuts] at h
    rw [cutMembers]
    by_cases hkey : key = "children"
    · rw [if_pos hkey] at h ⊢
      rw [cutChildren_eq_self level v h]
    · rw [if_neg hkey] at h ⊢
      rw [cutMembers_eq_self_of_count level rest h]

theorem cutChildren_eq_self (level : Nat) : ∀ v : Value,
    countChildCuts level v = 0 → cutChildren level v = v
  | .array items, h => by
    rw [countChildCuts] at h
    rw [cutChildren]
    by_cases hlevel : deepestLevel ≤ level
    · rw [if_pos hlevel] at h ⊢
      cases items with
      | nil => rfl
      | cons v rest => cases h
    · rw [if_neg hlevel] at h ⊢
      rw [cutItems_eq_self (level + 1) items h]
  | .null, _ | .bool _, _ | .int _, _ | .float _, _ | .text _, _ | .object _, _ => rfl

theorem cutItems_eq_self (level : Nat) : ∀ items : List Value,
    countItemCuts level items = 0 → cutItems level items = items
  | [], _ => rfl
  | v :: rest, h => by
    rw [countItemCuts] at h
    rw [cutItems, cutNode_eq_self level v (by omega), cutItems_eq_self level rest (by omega)]

end

theorem cutDeep_eq_self (reply : Members) (h : cutCount reply = 0) : cutDeep reply = reply := by
  rw [cutCount] at h
  rw [cutDeep_eq_modify]
  apply Keyed.modify_eq_self
  intro v hv
  cases v with
  | array roots =>
    rw [hv] at h
    rw [cutRoots, cutItems_eq_self 1 roots h]
  | _ => rfl

theorem cutCount_cutDeep (reply : Members) : cutCount (cutDeep reply) = 0 := by
  rw [cutCount_eq_length, atLevel_cutDeep_lastLevel, List.length_eq_zero_iff,
    List.filter_eq_nil_iff]
  intro members hmem
  obtain ⟨before, -, rfl⟩ := List.mem_map.mp hmem
  rw [cutMembers_lastLevel, hasChildren_emptied]
  nofun

/-! ## What stays -/

/-- The second value is the first one without the parts where some pointers lead: nothing is there,
and at all other pointers the shapes are the same. -/
def Loses (gone : Pointer → Bool) (v w : Value) : Prop :=
  ∀ pointer, (w.at? pointer).map Value.shape =
    if gone pointer then none else (v.at? pointer).map Value.shape

/-- The pointers under a key. -/
def inKey (key : Text) (gone : Pointer → Bool) : Pointer → Bool
  | .key k :: rest => k = key && gone rest
  | _ => false

/-- The pointers into an item. -/
def inItem (gone : Pointer → Bool) : Pointer → Bool
  | .item _ :: rest => gone rest
  | _ => false

theorem leadsDown_succ (levels : Nat) :
    leadsDown (levels + 1) = inKey "children" (inItem (leadsDown levels)) := by
  funext pointer
  match pointer with
  | .key _ :: .item _ :: _ => rfl
  | .key _ :: .key _ :: _ => exact (Bool.and_false _).symm
  | [.key _] => exact (Bool.and_false _).symm
  | [] | .item _ :: _ => rfl

theorem leadsBelow_eq (level : Nat) :
    leadsBelow level = inKey "components" (inItem (leadsDown level)) := by
  funext pointer
  match pointer with
  | .key _ :: .item _ :: _ => rfl
  | .key _ :: .key _ :: _ => exact (Bool.and_false _).symm
  | [.key _] => exact (Bool.and_false _).symm
  | [] | .item _ :: _ => rfl

variable {gone : Pointer → Bool} {v : Value}

theorem loses_self (h : ∀ pointer, gone pointer = true → v.at? pointer = none) :
    Loses gone v v := by
  intro pointer
  by_cases hgone : gone pointer = true
  · rw [if_pos hgone, h pointer hgone]
    rfl
  · rw [if_neg hgone]

theorem loses_self_of_not_array (hv : ∀ items, v ≠ .array items) : Loses (inItem gone) v v := by
  apply loses_self
  intro pointer hgone
  match pointer with
  | .item _ :: _ =>
    cases v with
    | array items => exact absurd rfl (hv items)
    | _ => rfl

theorem loses_self_of_not_object {key : Text} (hv : ∀ members, v ≠ .object members) :
    Loses (inKey key gone) v v := by
  apply loses_self
  intro pointer hgone
  match pointer with
  | .key _ :: _ =>
    cases v with
    | object members => exact absurd rfl (hv members)
    | _ => rfl

theorem loses_map {f : Value → Value} (hf : ∀ v, Loses gone v (f v)) (items : List Value) :
    Loses (inItem gone) (.array items) (.array (items.map f)) := by
  intro pointer
  match pointer with
  | [] | .key _ :: _ => rfl
  | .item index :: rest =>
    rw [inItem, Value.at?, Value.at?, Value.part?, Value.part?, List.getElem?_map]
    cases items[index]? with
    | none => exact (ite_self _).symm
    | some v => exact hf v rest

theorem loses_all (items : List Value) :
    Loses (inItem fun _ => true) (.array items) (.array []) := by
  intro pointer
  match pointer with
  | [] | .key _ :: _ | .item _ :: _ => rfl

theorem shape_modify (key : Text) (f : Value → Value) (members : Members) :
    Value.shape (.object (Keyed.modify key f members)) = Value.shape (.object members) := by
  rw [Value.shape, Value.shape]
  congr 1
  induction members with
  | nil => rfl
  | cons first members ih =>
    obtain ⟨k, v⟩ := first
    rw [Keyed.modify]
    by_cases hk : k = key
    · rw [if_pos hk, List.map_cons, List.map_cons]
    · rw [if_neg hk, List.map_cons, List.map_cons, ih]

theorem loses_modify {key : Text} {f : Value → Value} (hf : ∀ v, Loses gone v (f v))
    (members : Members) :
    Loses (inKey key gone) (.object members) (.object (Keyed.modify key f members)) := by
  intro pointer
  match pointer with
  | [] => exact congrArg some (shape_modify key f members)
  | .item _ :: _ => rfl
  | .key k :: rest =>
    rw [inKey, Value.at?, Value.at?, Value.part?, Value.part?]
    by_cases hk : k = key
    · rw [hk, Keyed.get?_modify]
      cases Keyed.get? key members with
      | none => exact (ite_self _).symm
      | some v =>
        rw [decide_eq_true rfl, Bool.true_and]
        exact hf v rest
    · rw [Keyed.get?_modify_of_ne hk, decide_eq_false hk, Bool.false_and]
      rfl

theorem loses_cutNode_of_children {level levels : Nat}
    (hchildren : ∀ v, Loses (inItem (leadsDown levels)) v (cutChildren level v)) (v : Value) :
    Loses (leadsDown (levels + 1)) v (cutNode level v) := by
  rw [leadsDown_succ]
  cases v with
  | object members =>
    rw [cutNode, cutMembers_eq_modify]
    exact loses_modify hchildren members
  | _ => exact loses_self_of_not_object (by intro members h; cases h)

theorem loses_cutChildren_of_last {level : Nat} (h : deepestLevel ≤ level) (v : Value) :
    Loses (inItem (leadsDown 0)) v (cutChildren level v) := by
  cases v with
  | array items =>
    rw [cutChildren, if_pos h]
    exact loses_all items
  | _ => exact loses_self_of_not_array (by intro items h; cases h)

theorem loses_cutChildren_of_nodes {level levels : Nat} (h : level < deepestLevel)
    (hnodes : ∀ v, Loses (leadsDown levels) v (cutNode (level + 1) v)) (v : Value) :
    Loses (inItem (leadsDown levels)) v (cutChildren level v) := by
  cases v with
  | array items =>
    rw [cutChildren, if_neg (by omega), cutItems_eq_map]
    exact loses_map hnodes items
  | _ => exact loses_self_of_not_array (by intro items h; cases h)

/-- A component so many levels above the last one loses what is below the last level. -/
theorem loses_cutNode (levels level : Nat) (h : level + levels = deepestLevel) (v : Value) :
    Loses (leadsDown (levels + 1)) v (cutNode level v) := by
  -- by the distance to the last level, which shrinks on the way down whatever the value holds
  induction levels generalizing level v with
  | zero =>
    apply loses_cutNode_of_children
    exact loses_cutChildren_of_last (by omega)
  | succ levels ih =>
    apply loses_cutNode_of_children
    apply loses_cutChildren_of_nodes (by omega)
    exact ih (level + 1) (by omega)

theorem loses_cutRoots (v : Value) : Loses (inItem (leadsDown deepestLevel)) v (cutRoots v) := by
  cases v with
  | array roots =>
    rw [cutRoots, cutItems_eq_map]
    exact loses_map (loses_cutNode (deepestLevel - 1) 1 (by decide)) roots
  | _ => exact loses_self_of_not_array (by intro items h; cases h)

theorem loses_cutDeep (reply : Members) :
    Loses (leadsBelow deepestLevel) (.object reply) (.object (cutDeep reply)) := by
  rw [leadsBelow_eq, cutDeep_eq_modify]
  exact loses_modify loses_cutRoots reply

/-! ## The cut -/

/-- The cut removes exactly what lies below the last level. Done in place, with a stack for the
components that wait, it ends with the cut reply and the count (the first part). No component is
left below the last level, the components on the last level have lost their children and nothing
else, and whatever a pointer leads to elsewhere in the reply is as it was. The count is the number
of components that lost children; where there are none, the reply stays the same. Cutting once more
changes nothing. -/
theorem cutDeep_empties_lastLevel (reply : Members) :
    (Sweep.start reply).Reaches ⟨.object (cutDeep reply), [], cutCount reply⟩ ∧
    (∀ level, deepestLevel < level → atLevel (cutDeep reply) level = []) ∧
    atLevel (cutDeep reply) deepestLevel = (atLevel reply deepestLevel).map emptied ∧
    (∀ pointer, ((Value.object (cutDeep reply)).at? pointer).map Value.shape =
      if leadsBelow deepestLevel pointer then none
      else ((Value.object reply).at? pointer).map Value.shape) ∧
    cutCount reply = ((atLevel reply deepestLevel).filter hasChildren).length ∧
    ((∀ members ∈ atLevel reply deepestLevel, hasChildren members = false) →
      cutDeep reply = reply ∧ cutCount reply = 0) ∧
    cutDeep (cutDeep reply) = cutDeep reply := by
  have hcount := cutCount_eq_length reply
  refine ⟨Sweep.reaches_cutDeep reply, ?_, ?_, loses_cutDeep reply, hcount, ?_, ?_⟩
  · intro level hlevel
    obtain ⟨extra, rfl⟩ := Nat.exists_eq_add_of_lt hlevel
    exact atLevel_cutDeep_eq_nil reply extra
  · rw [atLevel_cutDeep_lastLevel]
    congr 1
    funext members
    exact cutMembers_lastLevel members
  · intro hnone
    have hfilter : (atLevel reply deepestLevel).filter hasChildren = [] := by
      rw [List.filter_eq_nil_iff]
      intro members hmem
      rw [hnone members hmem]
      nofun
    have hzero : cutCount reply = 0 := by rw [hcount, hfilter, List.length_nil]
    exact ⟨cutDeep_eq_self reply hzero, hzero⟩
  · exact cutDeep_eq_self (cutDeep reply) (cutCount_cutDeep reply)

/-- The reply that holds one component and what is below it. -/
def withRoot (root : Value) : Members := [("components", .array [root])]

/-- A chain of one component more than there are levels loses the last one, and a chain that just
fits stays the same. -/
theorem cutDeep_empties_lastLevel_chain :
    (atLevel (withRoot (chain deepestLevel)) (deepestLevel + 1)).length = 1 ∧
    atLevel (cutDeep (withRoot (chain deepestLevel))) (deepestLevel + 1) = [] ∧
    cutDeep (withRoot (chain (deepestLevel - 1))) = withRoot (chain (deepestLevel - 1)) := by
  obtain ⟨-, hbelow, -⟩ := cutDeep_empties_lastLevel (withRoot (chain deepestLevel))
  obtain ⟨-, -, -, -, -, hsame, -⟩ :=
    cutDeep_empties_lastLevel (withRoot (chain (deepestLevel - 1)))
  have hnone : (atLevel (withRoot (chain (deepestLevel - 1))) deepestLevel).all
      (fun members => !hasChildren members) = true := by decide +kernel
  refine ⟨by decide +kernel, hbelow _ (Nat.lt_succ_self _), (hsame ?_).1⟩
  intro members hmem
  have hnot := List.all_eq_true.mp hnone members hmem
  rwa [Bool.not_eq_true'] at hnot

end AgentPanel.Reply
