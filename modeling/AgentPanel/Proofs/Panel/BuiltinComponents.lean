import AgentPanel.Panel.Depth
import AgentPanel.Proofs.Results
import AgentPanel.Proofs.Text.Replacement

/-!
# What the builtin components make of properties

Properties come from a language model and may hold anything. The builtin components make
well-formed elements of them all the same: which attributes there are and what is in them is the
inductive relation `Builtin.Shows`.

There are three ways not to come to an element: the type is unknown, the properties cannot be
copied, or the component reads an integer that has no text. `Component.BuiltBuiltin` says all that
can be said of one component, with the type, the copy and the result.
-/

namespace AgentPanel

open Json (Value Members)

namespace Builtin

/-- The builtin type tags. -/
def tags : List Text := components.map Prod.fst

example : tags = (["text", "button", "stat-card", "container", "grid-container"] : List Text) :=
  rfl

/-! ## Elements -/

/-- What a node of builtin type shows: its kind and its attributes. All attributes are texts, except
that an icon may be missing. -/
inductive Shows : (type kind : Text) → (attrs : Members) → Prop
  | text {content style : Text} (known : style ∈ textStyles) :
      Shows "text" "text" [("content", .text content), ("style", .text style)]
  | button {label color : Text} (color_ne_nil : color ≠ []) :
      Shows "button" "button" [("label", .text label), ("color", .text color)]
  | statCard {title value colorClass accent : Text} {icon : Value}
      (icon_cases : icon = .null ∨ ∃ name : Text, name ≠ [] ∧ icon = .text name)
      (accent_ne_nil : accent ≠ []) (replaced : ¬Text.ofString "text-" <:+: accent) :
      Shows "stat-card" "stat-card" [("title", .text title), ("value", .text value),
        ("icon", icon), ("color_class", .text colorClass), ("accent_class", .text accent)]
  | container : Shows "container" "container" [("layout", .text "stack")]
  | gridContainer : Shows "grid-container" "container" [("layout", .text "grid")]

theorem Shows.kind_ne {type kind : Text} {attrs : Members} (h : Shows type kind attrs) :
    kind ≠ Rendered.diagnosticKind := by
  cases h <;> decide

theorem orDefault_ne_nil {default : Text} (h : default ≠ []) (t : Text) :
    orDefault t default ≠ [] := by
  rw [orDefault]
  split
  · exact h
  · next ht => simpa using ht

/-- Whatever a colour class holds, no text colour is left in the accent that goes with it. -/
theorem accentClass_replaced (colorClass : Text) :
    accentClass colorClass ≠ [] ∧ ¬Text.ofString "text-" <:+: accentClass colorClass := by
  have hold : Text.ofString "text-" = .scalar 't' :: Text.ofString "ext-" := by decide
  have hnew : Text.ofString "bg-" = .scalar 'b' :: Text.ofString "g-" := by decide
  rw [accentClass, hold, hnew]
  split
  · refine ⟨by decide, ?_⟩
    intro hinfix
    have hmem : CodePoint.scalar 't' ∈ defaultAccentClass := hinfix.subset List.mem_cons_self
    exact absurd hmem (by decide)
  · next h =>
    have hcolor : colorClass ≠ [] := by simpa using h
    exact ⟨Text.replace_ne_nil hcolor, Text.not_infix_replace (by decide) (by decide) _⟩

variable {props : Members} {e : Element}

theorem shows_text (h : text props = .ok e) : Shows "text" e.kind e.attrs := by
  obtain ⟨style, -, h⟩ := exists_of_bind_eq_ok h
  obtain ⟨content, -, h⟩ := exists_of_bind_eq_ok h
  cases h
  refine .text ?_
  split
  · next hknown => exact List.contains_iff_mem.mp hknown
  · decide

theorem shows_button (h : button props = .ok e) : Shows "button" e.kind e.attrs := by
  obtain ⟨label, -, h⟩ := exists_of_bind_eq_ok h
  obtain ⟨color, -, h⟩ := exists_of_bind_eq_ok h
  cases h
  exact .button (orDefault_ne_nil (by decide) color)

theorem shows_statCard (h : statCard props = .ok e) : Shows "stat-card" e.kind e.attrs := by
  obtain ⟨colorClass, -, h⟩ := exists_of_bind_eq_ok h
  obtain ⟨icon, -, h⟩ := exists_of_bind_eq_ok h
  obtain ⟨title, -, h⟩ := exists_of_bind_eq_ok h
  obtain ⟨value, -, h⟩ := exists_of_bind_eq_ok h
  cases h
  obtain ⟨hne, hreplaced⟩ := accentClass_replaced colorClass
  refine .statCard ?_ hne hreplaced
  split
  · exact .inl rfl
  · next hicon => exact .inr ⟨icon, by simpa using hicon, rfl⟩

/-- A builtin component makes well-formed elements only. -/
theorem shows_build {type : Text} {build : Members → Except TextFault Element}
    (hmem : (type, build) ∈ components) (h : build props = .ok e) : Shows type e.kind e.attrs := by
  simp only [components, List.mem_cons, List.not_mem_nil, or_false, Prod.mk.injEq] at hmem
  rcases hmem with ⟨rfl, rfl⟩ | ⟨rfl, rfl⟩ | ⟨rfl, rfl⟩ | ⟨rfl, rfl⟩ | ⟨rfl, rfl⟩
  · exact shows_text h
  · exact shows_button h
  · exact shows_statCard h
  · cases h
    exact .container
  · cases h
    exact .gridContainer

/-! ## Texts that cannot be made -/

/-- The properties that the components of each builtin type read. -/
def readings : List (Text × List Text) := [
  ("text", ["style", "content"]),
  ("button", ["label", "color"]),
  ("stat-card", ["colorClass", "icon", "title", "value"]),
  ("container", []),
  ("grid-container", [])]

/-- One of these properties holds an integer of too many digits. -/
def holdLongInt (names : List Text) (props : Members) : Bool :=
  names.any fun name => (props.get? name).any Value.holdsLongInt

/-- A component of this type reads a property that holds an integer of too many digits. -/
def readsLongInt (type : Text) (props : Members) : Bool :=
  readings.any fun reading => reading.1 = type && holdLongInt reading.2 props

/-- The fault is that of an integer with too many digits in one of these properties. -/
def BlamesDigits (names : List Text) (props : Members) (fault : TextFault) : Prop :=
  fault = .tooManyDigits ∧ holdLongInt names props = true

variable {names : List Text} {fault : TextFault}

theorem blamesDigits_of_textProp {name default : Text} (hname : name ∈ names)
    (h : textProp props name default = .error fault) : BlamesDigits names props fault := by
  rw [textProp] at h
  split at h
  · cases h
  · cases h
  · next v _ hv =>
    unfold Value.written? at h
    split at h
    · cases h
    · split at h
      · next hlong =>
        cases h
        refine ⟨rfl, List.any_eq_true.mpr ⟨name, hname, ?_⟩⟩
        rw [hv]
        exact hlong
      · cases h

theorem blamesDigits_text (h : text props = .error fault) :
    BlamesDigits ["style", "content"] props fault := by
  rcases cases_of_bind_eq_error h with h | ⟨style, -, h⟩
  · exact blamesDigits_of_textProp (by decide) h
  rcases cases_of_bind_eq_error h with h | ⟨content, -, h⟩
  · exact blamesDigits_of_textProp (by decide) h
  · cases h

theorem blamesDigits_button (h : button props = .error fault) :
    BlamesDigits ["label", "color"] props fault := by
  rcases cases_of_bind_eq_error h with h | ⟨label, -, h⟩
  · exact blamesDigits_of_textProp (by decide) h
  rcases cases_of_bind_eq_error h with h | ⟨color, -, h⟩
  · exact blamesDigits_of_textProp (by decide) h
  · cases h

theorem blamesDigits_statCard (h : statCard props = .error fault) :
    BlamesDigits ["colorClass", "icon", "title", "value"] props fault := by
  rcases cases_of_bind_eq_error h with h | ⟨colorClass, -, h⟩
  · exact blamesDigits_of_textProp (by decide) h
  rcases cases_of_bind_eq_error h with h | ⟨icon, -, h⟩
  · exact blamesDigits_of_textProp (by decide) h
  rcases cases_of_bind_eq_error h with h | ⟨title, -, h⟩
  · exact blamesDigits_of_textProp (by decide) h
  rcases cases_of_bind_eq_error h with h | ⟨value, -, h⟩
  · exact blamesDigits_of_textProp (by decide) h
  · cases h

theorem readsLongInt_of_mem {type : Text} (hmem : (type, names) ∈ readings)
    (h : holdLongInt names props = true) : readsLongInt type props = true := by
  refine List.any_eq_true.mpr ⟨(type, names), hmem, ?_⟩
  rw [Bool.and_eq_true, decide_eq_true_iff]
  exact ⟨rfl, h⟩

/-- A builtin component fails for nothing but an integer of too many digits. -/
theorem tooManyDigits_of_build {type : Text} {build : Members → Except TextFault Element}
    (hmem : (type, build) ∈ components) (h : build props = .error fault) :
    fault = .tooManyDigits ∧ readsLongInt type props = true := by
  suffices hblames : ∃ names, (type, names) ∈ readings ∧ BlamesDigits names props fault by
    obtain ⟨names, hreading, hfault, hlong⟩ := hblames
    exact ⟨hfault, readsLongInt_of_mem hreading hlong⟩
  simp only [components, List.mem_cons, List.not_mem_nil, or_false, Prod.mk.injEq] at hmem
  rcases hmem with ⟨rfl, rfl⟩ | ⟨rfl, rfl⟩ | ⟨rfl, rfl⟩ | ⟨rfl, rfl⟩ | ⟨rfl, rfl⟩
  · exact ⟨_, by decide, blamesDigits_text h⟩
  · exact ⟨_, by decide, blamesDigits_button h⟩
  · exact ⟨_, by decide, blamesDigits_statCard h⟩
  · cases h
  · cases h

end Builtin

/-! ## The builtin registry -/

namespace Registry

variable {tag : Text}

theorem resolve_builtin_eq_none_iff : Registry.builtin.resolve tag = none ↔ tag ∉ Builtin.tags :=
  Keyed.get?_eq_none_iff

/-- A builtin registry resolves the builtin types only. -/
theorem exists_of_resolve_builtin {capability : Capability}
    (h : Registry.builtin.resolve tag = some capability) :
    ∃ build, (tag, build) ∈ Builtin.components ∧ capability = Builtin.capability tag build := by
  obtain ⟨⟨type, build⟩, hmem, hentry⟩ := List.mem_map.mp (Keyed.mem_of_get? h)
  cases hentry
  exact ⟨build, hmem, rfl⟩

end Registry

namespace Component

/-- What becomes of a component on a level where the builtin components are registered. -/
inductive BuiltBuiltin (copying : Copying) (level : Nat) (c : Component) :
    Except Obstacle Element → Prop
  | unknown (notBuiltin : c.type ∉ Builtin.tags) :
      BuiltBuiltin copying level c (.error .unknownType)
  | notCopied {text : Text} (known : c.type ∈ Builtin.tags)
      (fault : copying.fault? level c.props = some text) :
      BuiltBuiltin copying level c (.error (.raised text))
  | notWritten (known : c.type ∈ Builtin.tags) (copied : copying.fault? level c.props = none)
      (long : Builtin.readsLongInt c.type c.props = true) :
      BuiltBuiltin copying level c (.error (.raised TextFault.tooManyDigits.message))
  | built {e : Element} (known : c.type ∈ Builtin.tags)
      (copied : copying.fault? level c.props = none) (shows : Builtin.Shows c.type e.kind e.attrs) :
      BuiltBuiltin copying level c (.ok e)

theorem builtBuiltin (copying : Copying) (level : Nat) (c : Component) :
    BuiltBuiltin copying level c (buildElement (.builtin copying) level c).value := by
  cases hresolve : Registry.builtin.resolve c.type with
  | none =>
    rw [value_buildElement_of_none hresolve]
    exact .unknown (Registry.resolve_builtin_eq_none_iff.mp hresolve)
  | some capability =>
    have hknown : c.type ∈ Builtin.tags := by
      apply Decidable.byContradiction
      intro hunknown
      cases hresolve.symm.trans (Registry.resolve_builtin_eq_none_iff.mpr hunknown)
    obtain ⟨build, hbuild, rfl⟩ := Registry.exists_of_resolve_builtin hresolve
    -- the component is not asked before its properties are copied
    cases hcopy : copying.fault? level c.props with
    | some text =>
      rw [value_buildElement_of_raised hresolve (Capability.apply_eq_raised _ hcopy)]
      exact .notCopied hknown hcopy
    | none =>
      have happly := Capability.apply_eq_build (Builtin.capability c.type build) hcopy
      cases hresult : build c.props with
      | ok e =>
        have houtcome : (Builtin.capability c.type build).build c.props = .element e := by
          simp only [Builtin.capability, hresult]
        rw [value_buildElement_of_element hresolve (happly.trans houtcome)]
        exact .built hknown hcopy (Builtin.shows_build hbuild hresult)
      | error fault =>
        obtain ⟨rfl, hlong⟩ := Builtin.tooManyDigits_of_build hbuild hresult
        have houtcome : (Builtin.capability c.type build).build c.props =
            .raised TextFault.tooManyDigits.message := by
          simp only [Builtin.capability, hresult]
        rw [value_buildElement_of_raised hresolve (happly.trans houtcome)]
        exact .notWritten hknown hcopy hlong

end Component

end AgentPanel
