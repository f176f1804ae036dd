import AgentPanel.Proofs.Results
import AgentPanel.Settings.Field

/-!
# The keys of a settings file

No key stands twice in the table of a file, nor in one of its sections. A section may come from
headers, from dotted keys or from an inline table, so this is an invariant of all that is built
while a file is read: of entries (`Entries.Distinct`), and of the lines and brackets that are open
(`Reading.Distinct`). The main statement is `distinctKeys_of_read`.
-/

namespace AgentPanel

/-- No key stands twice in the setting if it is a table. -/
def Setting.Distinct (s : Setting) : Prop :=
  ∀ table : SettingTable, s = .table table → table.keys.Nodup

theorem Setting.distinct_of_not_table {s : Setting} (h : ∀ table, s ≠ .table table) : s.Distinct :=
  fun table heq => (h table heq).elim

theorem Setting.distinct_table {table : SettingTable} (h : table.keys.Nodup) :
    (Setting.table table).Distinct := by
  intro other heq
  cases heq
  exact h

namespace Toml

/-! ## Entries -/

mutual

/-- No key stands twice in what the entry makes a section of. -/
inductive Entry.Distinct : Entry → Prop
  | value {s : Setting} (h : s.Distinct) : Entry.Distinct (.value s)
  | table {status : Status} {entries : List (Text × Entry)} (h : Entries.Distinct entries) :
      Entry.Distinct (.table status entries)
  | tables {earlier : List (List (Text × Entry))} {current : List (Text × Entry)}
      (h : Entries.Distinct current) : Entry.Distinct (.tables earlier current)

/-- No key stands twice among the entries, nor in a table among them. -/
inductive Entries.Distinct : List (Text × Entry) → Prop
  | intro {entries : List (Text × Entry)} (nodup : (Keyed.keys entries).Nodup)
      (each : ∀ key entry, Keyed.get? key entries = some entry → Entry.Distinct entry) :
      Entries.Distinct entries

end

namespace Entries

variable {entries changed : Entries} {entry : Entry}

theorem Distinct.nodup (h : Distinct entries) : entries.keys.Nodup := by
  cases h with
  | intro nodup _ => exact nodup

theorem Distinct.each (h : Distinct entries) {key : Text} (hentry : entries.get? key = some entry) :
    entry.Distinct := by
  cases h with
  | intro _ each => exact each key entry hentry

theorem distinct_nil : Distinct [] := .intro List.nodup_nil nofun

theorem Distinct.set (h : Distinct entries) (key : Text) (hentry : entry.Distinct) :
    Distinct (entries.set key entry) := by
  refine .intro (Keyed.nodup_keys_set h.nodup) ?_
  intro other found hfound
  rw [Keyed.get?_set] at hfound
  by_cases hother : other = key
  · rw [if_pos hother] at hfound
    cases hfound
    exact hentry
  · rw [if_neg hother] at hfound
    exact h.each hfound

theorem Distinct.inner {key : Text} {status : Status} {inner : Entries} (h : Distinct entries)
    (hkey : entries.get? key = some (.table status inner)) : Distinct inner := by
  cases h.each hkey with
  | table hinner => exact hinner

theorem Distinct.current {key : Text} {earlier : List Entries} {current : Entries}
    (h : Distinct entries) (hkey : entries.get? key = some (.tables earlier current)) :
    Distinct current := by
  cases h.each hkey with
  | tables hcurrent => exact hcurrent

theorem Distinct.assign {part : Nat} {s : Setting} (hs : s.Distinct) {key : Key}
    (h : Distinct entries) (hchanged : entries.assign part s key = some changed) :
    Distinct changed := by
  fun_induction Entries.assign part s key entries generalizing changed with
  | case1 | case2 | case6 | case7 => cases hchanged
  | case3 =>
    cases hchanged
    exact h.set _ (.value hs)
  | case4 first rest entries _ hfirst ih =>
    obtain ⟨inner, hinner, rfl⟩ := Option.map_eq_some_iff.mp hchanged
    exact h.set _ (.table (ih distinct_nil hinner))
  | case5 first rest entries _ status old hfirst _ ih =>
    obtain ⟨inner, hinner, rfl⟩ := Option.map_eq_some_iff.mp hchanged
    exact h.set _ (.table (ih (h.inner hfirst) hinner))

theorem Distinct.within {change : Entries → Option Entries} {key : Key}
    (hchange : ∀ old new, Distinct old → change old = some new → Distinct new)
    (h : Distinct entries) (hchanged : entries.within change key = some changed) :
    Distinct changed := by
  fun_induction Entries.within change key entries generalizing changed with
  | case1 => exact hchange _ _ h hchanged
  | case2 first rest entries hfirst ih =>
    obtain ⟨inner, hinner, rfl⟩ := Option.map_eq_some_iff.mp hchanged
    exact h.set _ (.table (ih distinct_nil hinner))
  | case3 first rest entries status old hfirst ih =>
    obtain ⟨inner, hinner, rfl⟩ := Option.map_eq_some_iff.mp hchanged
    exact h.set _ (.table (ih (h.inner hfirst) hinner))
  | case4 first rest entries earlier old hfirst ih =>
    obtain ⟨current, hcurrent, rfl⟩ := Option.map_eq_some_iff.mp hchanged
    exact h.set _ (.tables (ih (h.current hfirst) hcurrent))
  | case5 => cases hchanged

theorem Distinct.declare {name : Text} (h : Distinct entries)
    (hchanged : entries.declare name = some changed) : Distinct changed := by
  unfold Entries.declare at hchanged
  split at hchanged
  · cases hchanged
    exact h.set _ (.table distinct_nil)
  case h_2 inner hname =>
    cases hchanged
    exact h.set _ (.table (h.inner hname))
  · cases hchanged

theorem Distinct.declareItem {name : Text} (h : Distinct entries)
    (hchanged : entries.declareItem name = some changed) : Distinct changed := by
  unfold Entries.declareItem at hchanged
  split at hchanged
  · cases hchanged
    exact h.set _ (.tables distinct_nil)
  · cases hchanged
    exact h.set _ (.tables distinct_nil)
  · cases hchanged

/-! ### As settings -/

theorem get?_toSettings (entries : Entries) (key : Text) :
    Keyed.get? key (toSettings entries) = (entries.get? key).map Entry.toSetting := by
  induction entries with
  | nil => rfl
  | cons first rest ih =>
    obtain ⟨k, entry⟩ := first
    rw [toSettings, Keyed.get?, Keyed.get?, ih]
    by_cases hk : k = key
    · rw [if_pos hk, if_pos hk]
      rfl
    · rw [if_neg hk, if_neg hk]

theorem keys_toSettings (entries : Entries) : Keyed.keys (toSettings entries) = entries.keys := by
  induction entries with
  | nil => rfl
  | cons first rest ih => exact congrArg (first.1 :: ·) ih

theorem Distinct.nodup_toSettings (h : Distinct entries) :
    (Keyed.keys (toSettings entries)).Nodup := by
  rw [keys_toSettings]
  exact h.nodup

end Entries

theorem Entry.Distinct.toSetting {entry : Entry} (h : entry.Distinct) :
    entry.toSetting.Distinct := by
  cases h with
  | value hs => exact hs
  | table hentries => exact Setting.distinct_table hentries.nodup_toSettings
  | tables => exact Setting.distinct_of_not_table nofun

theorem Entries.Distinct.distinctKeys {entries : Entries} (h : Entries.Distinct entries) :
    SettingTable.DistinctKeys (toSettings entries) where
  top := h.nodup_toSettings
  sections := by
    intro name inner hinner
    rw [get?_toSettings] at hinner
    obtain ⟨entry, hentry, htable⟩ := Option.map_eq_some_iff.mp hinner
    exact (h.each hentry).toSetting inner htable

/-! ## Values -/

theorem not_table_of_decimal? {negative : Bool} {t : Text} {s : Setting}
    (hs : decimal? negative t = some s) : ∀ table, s ≠ .table table := by
  unfold decimal? at hs
  obtain ⟨digits, -, hs⟩ := Option.bind_eq_some_iff.mp hs
  split at hs
  · cases hs
    exact nofun
  · obtain ⟨places, -, hs⟩ := Option.bind_eq_some_iff.mp hs
    obtain ⟨power, -, hs⟩ := Option.bind_eq_some_iff.mp hs
    cases hs
    exact nofun

theorem not_table_of_number? {t : Text} {s : Setting} (hs : number? t = some s) :
    ∀ table, s ≠ .table table := by
  simp only [number?, Option.orElse_eq_or, Option.or_eq_some_iff] at hs
  rcases hs with (hbased | ⟨-, hnamed⟩) | ⟨-, hdecimal⟩
  · unfold basedNumber? at hbased
    obtain ⟨⟨base, rest⟩, -, hbased⟩ := Option.bind_eq_some_iff.mp hbased
    obtain ⟨digits, -, hbased⟩ := Option.bind_eq_some_iff.mp hbased
    cases hbased
    exact nofun
  · unfold namedNumber? at hnamed
    split at hnamed
    · cases hnamed
      exact nofun
    · split at hnamed
      · cases hnamed
        exact nofun
      · cases hnamed
  · exact not_table_of_decimal? hdecimal

theorem not_table_of_scalar? {t : Text} {s : Setting} (hs : scalar? t = some s) :
    ∀ table, s ≠ .table table := by
  unfold scalar? at hs
  split at hs
  · cases hs
    exact nofun
  · split at hs
    · cases hs
      exact nofun
    · split at hs
      · cases hs
        exact nofun
      · exact not_table_of_number? hs

theorem distinct_of_scalar {t : Text} {s : Setting} (hs : scalar t = .ok s) : s.Distinct := by
  unfold scalar at hs
  split at hs
  · cases hs
  · split at hs
    case h_1 found hfound =>
      cases hs
      exact Setting.distinct_of_not_table (not_table_of_scalar? hfound)
    · cases hs

/-- What an assignment or a piece holds has no key twice. -/
def Statement.Distinct : Statement → Prop
  | .assignment _ s => s.Distinct
  | .tableHeader _ | .itemHeader _ => True

def Piece.Distinct : Piece → Prop
  | .value s => s.Distinct
  | .header s => s.Distinct
  | .token _ | .key _ => True

def Context.Distinct : Context → Prop
  | .table entries _ => Entries.Distinct entries
  | .line _ | .header | .innerHeader | .list _ => True

theorem distinct_of_value {pieces : List Piece} {s : Setting} (h : ∀ p ∈ pieces, p.Distinct)
    (hs : value pieces = .ok s) : s.Distinct := by
  unfold value at hs
  split at hs
  · cases hs
    exact h _ List.mem_cons_self
  · cases hs
    exact Setting.distinct_of_not_table nofun
  · cases hs
    exact Setting.distinct_of_not_table nofun
  · split at hs
    · exact distinct_of_scalar hs
    · split at hs
      · cases hs
      · cases hs

namespace Reading

variable {r r' : Reading} {room : Nat}

structure Distinct (r : Reading) : Prop where
  statements : ∀ s ∈ r.statements, s.Distinct
  context : r.context.Distinct
  pieces : ∀ p ∈ r.pieces, p.Distinct
  outer : ∀ context ∈ r.outer, context.Distinct

theorem Distinct.part (h : r.Distinct) : ∀ p ∈ r.part, p.Distinct := by
  intro p hp
  apply h.pieces
  unfold Reading.part trimPieces at hp
  have hback := (List.dropWhile_sublist _).subset (List.mem_reverse.mp hp)
  have hfront := (List.dropWhile_sublist _).subset (List.mem_reverse.mp hback)
  exact List.mem_reverse.mp hfront

theorem Distinct.push {p : Piece} (h : r.Distinct) (hp : p.Distinct) : (r.push p).Distinct :=
  { h with pieces := List.forall_mem_cons.mpr ⟨hp, h.pieces⟩ }

theorem Distinct.marked {context : Context} (h : r.Distinct) (hcontext : context.Distinct) :
    (r.marked context).Distinct :=
  ⟨h.statements, hcontext, nofun, h.outer⟩

theorem Distinct.inside {bracket : Context} (h : r.Distinct) (hbracket : bracket.Distinct) :
    Distinct { r with context := bracket, pieces := [], outer := r.context :: r.outer } :=
  ⟨h.statements, hbracket, nofun, List.forall_mem_cons.mpr ⟨h.context, h.outer⟩⟩

theorem Distinct.opened {bracket : Context} (h : r.Distinct) (hbracket : bracket.Distinct)
    (hr' : r.opened room bracket = .ok r') : r'.Distinct := by
  simp only [Reading.opened] at hr'
  split at hr'
  · split at hr'
    · cases hr'
      exact h.inside hbracket
    · cases hr'
  · cases hr'

theorem Distinct.openedSquare (h : r.Distinct) (hr' : r.openedSquare room = .ok r') :
    r'.Distinct := by
  simp only [Reading.openedSquare] at hr'
  split at hr'
  · split at hr'
    · cases hr'
      exact h.inside trivial
    · cases hr'
  · split at hr'
    · cases hr'
      exact h.inside trivial
    · cases hr'
  · have hlist : (Context.list []).Distinct := trivial
    exact h.opened hlist hr'

theorem Distinct.closed {p : Piece} (h : r.Distinct) (hp : p.Distinct)
    (hr' : r.closed p = .ok r') : r'.Distinct := by
  unfold Reading.closed at hr'
  split at hr'
  · cases hr'
  case h_2 context outer houter =>
    cases hr'
    have houter' := h.outer
    rw [houter] at houter'
    obtain ⟨hcontext, hrest⟩ := List.forall_mem_cons.mp houter'
    exact ⟨h.statements, hcontext, List.forall_mem_singleton.mpr hp, hrest⟩

theorem distinct_of_assigned {entries changed : Entries} {key : Key} {s : Setting}
    (hs : s.Distinct) (h : Entries.Distinct entries)
    (hchanged : assigned entries key s = .ok changed) : Entries.Distinct changed := by
  unfold assigned at hchanged
  split at hchanged
  case h_1 hassign =>
    cases hchanged
    exact h.assign hs hassign
  · cases hchanged

theorem Distinct.equals (h : r.Distinct) (hr' : r.equals = .ok r') : r'.Distinct := by
  unfold Reading.equals at hr'
  split at hr'
  · obtain ⟨k, -, rfl⟩ := exists_of_map_eq_ok hr'
    exact h.marked trivial
  case h_2 entries hcontext =>
    obtain ⟨k, -, rfl⟩ := exists_of_map_eq_ok hr'
    have hentries := h.context
    rw [hcontext] at hentries
    exact h.marked hentries
  · cases hr'

theorem Distinct.comma (h : r.Distinct) (hr' : r.comma = .ok r') : r'.Distinct := by
  unfold Reading.comma at hr'
  split at hr'
  · obtain ⟨s, -, rfl⟩ := exists_of_map_eq_ok hr'
    exact h.marked trivial
  case h_2 entries k hcontext =>
    obtain ⟨s, hs, hr'⟩ := exists_of_bind_eq_ok hr'
    obtain ⟨changed, hchanged, hr'⟩ := exists_of_bind_eq_ok hr'
    cases hr'
    have hentries := h.context
    rw [hcontext] at hentries
    exact h.marked (distinct_of_assigned (distinct_of_value h.part hs) hentries hchanged)
  · cases hr'

theorem Distinct.closeSquare (h : r.Distinct) (hr' : r.closeSquare = .ok r') : r'.Distinct := by
  have hlist : ∀ items, (Piece.value (.list items)).Distinct :=
    fun items => Setting.distinct_of_not_table nofun
  have hkey : ∀ k, (Piece.key k).Distinct := fun _ => trivial
  have hitem : ∀ k, (Piece.header (.itemHeader k)).Distinct := fun _ => trivial
  have htable : ∀ k, (Piece.header (.tableHeader k)).Distinct := fun _ => trivial
  unfold Reading.closeSquare at hr'
  split at hr'
  · split at hr'
    · exact h.closed (hlist _) hr'
    · obtain ⟨s, -, hr'⟩ := exists_of_bind_eq_ok hr'
      exact h.closed (hlist _) hr'
  · obtain ⟨k, -, hr'⟩ := exists_of_bind_eq_ok hr'
    exact h.closed (hkey k) hr'
  · split at hr'
    · exact h.closed (hitem _) hr'
    · obtain ⟨k, -, hr'⟩ := exists_of_bind_eq_ok hr'
      exact h.closed (htable k) hr'
  · cases hr'

theorem Distinct.closeCurly (h : r.Distinct) (hr' : r.closeCurly = .ok r') : r'.Distinct := by
  have htable : ∀ table : SettingTable, table.keys.Nodup → (Piece.value (.table table)).Distinct :=
    fun _ => Setting.distinct_table
  unfold Reading.closeCurly at hr'
  split at hr'
  · split at hr'
    · exact h.closed (htable [] List.nodup_nil) hr'
    · cases hr'
  case h_2 entries k hcontext =>
    obtain ⟨s, hs, hr'⟩ := exists_of_bind_eq_ok hr'
    obtain ⟨changed, hchanged, hr'⟩ := exists_of_bind_eq_ok hr'
    have hentries := h.context
    rw [hcontext] at hentries
    have hdistinct := distinct_of_assigned (distinct_of_value h.part hs) hentries hchanged
    exact h.closed (htable _ hdistinct.nodup_toSettings) hr'
  · cases hr'

theorem Distinct.ended (h : r.Distinct) (hr' : r.ended = .ok r') : r'.Distinct := by
  have hline : (Context.line none).Distinct := trivial
  unfold Reading.ended at hr'
  split at hr'
  · cases hr'
    exact h.marked hline
  case h_2 s _ hpart =>
    cases hr'
    have hs := h.part
    rw [hpart] at hs
    exact { h.marked hline with
      statements := List.forall_mem_cons.mpr ⟨hs _ List.mem_cons_self, h.statements⟩ }
  case h_3 k _ =>
    obtain ⟨s, hs, hr'⟩ := exists_of_bind_eq_ok hr'
    cases hr'
    exact { h.marked hline with
      statements := List.forall_mem_cons.mpr ⟨distinct_of_value h.part hs, h.statements⟩ }
  · cases hr'

/-- One token keeps the keys apart. -/
theorem Distinct.step {t : Token} (h : r.Distinct) (hr' : r.step room t = .ok r') :
    r'.Distinct := by
  cases t with
  | comment =>
    cases hr'
    exact h
  | lineEnd =>
    simp only [Reading.step] at hr'
    split at hr'
    · cases hr'
      exact h.push trivial
    · exact h.ended hr'
  | equals => exact h.equals hr'
  | comma => exact h.comma hr'
  | openList => exact h.openedSquare hr'
  | openTable =>
    have htable : (Context.table [] none).Distinct := Entries.distinct_nil
    exact h.opened htable hr'
  | closeList => exact h.closeSquare hr'
  | closeTable => exact h.closeCurly hr'
  | broken => cases hr'
  | blank | word | quoted | block | dot =>
    cases hr'
    exact h.push trivial

theorem Distinct.run (h : r.Distinct) (room : Nat) (tokens : List Token) :
    ∀ s ∈ (r.run room tokens).1, s.Distinct := by
  have hread : ∀ s ∈ r.statements.reverse, s.Distinct := by
    intro s hs
    exact h.statements s (List.mem_reverse.mp hs)
  induction tokens generalizing r with
  | nil =>
    rw [Reading.run]
    split
    case h_1 r' hr' =>
      intro s hs
      exact (h.ended hr').statements s (List.mem_reverse.mp hs)
    · exact hread
  | cons t rest ih =>
    rw [Reading.run]
    split
    case h_1 r' hr' =>
      have hstep := h.step hr'
      exact ih hstep fun s hs => hstep.statements s (List.mem_reverse.mp hs)
    · exact hread

end Reading

/-! ## Files -/

theorem Entries.Distinct.underHeader? {d d' : Document}
    {enter : Text → Entries → Option Entries} {key : Key} (h : Entries.Distinct d.entries)
    (henter : ∀ name old new, Entries.Distinct old → enter name old = some new →
      Entries.Distinct new)
    (hd' : d.underHeader? enter key = some d') : Entries.Distinct d'.entries := by
  unfold Document.underHeader? at hd'
  obtain ⟨name, -, hd'⟩ := Option.bind_eq_some_iff.mp hd'
  obtain ⟨entries, hentries, hd'⟩ := Option.bind_eq_some_iff.mp hd'
  cases hd'
  exact h.within (henter name) hentries

/-- One statement keeps the keys apart. -/
theorem Entries.Distinct.carryOut? {d d' : Document} {statement : Statement}
    (h : Entries.Distinct d.entries) (hstatement : statement.Distinct)
    (hd' : d.carryOut? statement = some d') : Entries.Distinct d'.entries := by
  cases statement with
  | assignment key s =>
    unfold Document.carryOut? at hd'
    obtain ⟨entries, hentries, hd'⟩ := Option.bind_eq_some_iff.mp hd'
    cases hd'
    exact h.within (fun _ _ hold => hold.assign hstatement) hentries
  | tableHeader key => exact h.underHeader? (fun _ _ _ hold => hold.declare) hd'
  | itemHeader key => exact h.underHeader? (fun _ _ _ hold => hold.declareItem) hd'

theorem distinct_of_foldlM {statements : List Statement} {d d' : Document}
    (h : Entries.Distinct d.entries) (hstatements : ∀ s ∈ statements, s.Distinct)
    (hd' : statements.foldlM Document.carryOut? d = some d') : Entries.Distinct d'.entries := by
  induction statements generalizing d with
  | nil =>
    cases hd'
    exact h
  | cons s rest ih =>
    obtain ⟨hs, hrest⟩ := List.forall_mem_cons.mp hstatements
    rw [List.foldlM_cons] at hd'
    obtain ⟨next, hnext, hd'⟩ := Option.bind_eq_some_iff.mp hd'
    exact ih (h.carryOut? hs hnext) hrest hd'

/-- No key stands twice in the table of a file, nor in one of its sections. -/
theorem distinctKeys_of_read {room : Nat} {t : Text} {table : SettingTable}
    (hread : read room t = .ok table) : table.DistinctKeys := by
  have hstart : Reading.start.Distinct := ⟨nofun, trivial, nofun, nofun⟩
  have hstatements := hstart.run room (tokens t)
  simp only [read, statements] at hread
  split at hread
  · cases hread
  · cases hread
  case h_3 d hd _ =>
    cases hread
    exact (distinct_of_foldlM Entries.distinct_nil hstatements hd).distinctKeys

end Toml

end AgentPanel
