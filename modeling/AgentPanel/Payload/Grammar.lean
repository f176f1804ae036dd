import AgentPanel.Payload.Checking

/-!
# The grammar of payloads

Which value describes which payload, as relations. They say what the fields are and how a text, a
list of components or a forest comes out of them, and leave open how that is found out; the checks
that find it out count faults beside.
-/

namespace AgentPanel

open Json (Value Members)

/-- A value that stands for a text: the text itself, or a number with that text. -/
inductive StandsFor : Value → Text → Prop
  | text (t : Text) : StandsFor (.text t) t
  | int (n : Int) : StandsFor (.int n) (Text.ofInt n)
  | float (x : Double) : StandsFor (.float x) x.toText

/-- Nothing under a key: no value, or null. -/
def Vacant (members : Members) (key : Text) : Prop :=
  members.get? key = none ∨ members.get? key = some .null

namespace Component

/-- The properties among the members of a component: an object, or nothing. -/
inductive PropsOf (members : Members) : Members → Prop
  | nothing (h : Vacant members "props") : PropsOf members []
  | object {props : Members} (h : members.get? "props" = some (.object props)) :
      PropsOf members props

mutual

/-- A value describes a component: an object with an id, a type, perhaps properties and perhaps
children. -/
inductive Describes : Value → Component → Prop
  | object {members props : Members} {idValue : Value} {id type : Text}
      {children : List Component} (id_mem : members.get? "id" = some idValue)
      (stands : StandsFor idValue id) (type_mem : members.get? "type" = some (.text type))
      (props_of : PropsOf members props) (children_of : ChildrenOf members children) :
      Describes (.object members) ⟨id, type, props, children⟩

/-- The children among the members of a component: an array of components, or nothing. -/
inductive ChildrenOf : Members → List Component → Prop
  | nothing {members : Members} (h : Vacant members "children") : ChildrenOf members []
  | array {members : Members} {items : List Value} {children : List Component}
      (h : members.get? "children" = some (.array items)) (all : DescribeAll items children) :
      ChildrenOf members children

/-- Values describe components, one by one. -/
inductive DescribeAll : List Value → List Component → Prop
  | nil : DescribeAll [] []
  | cons {v : Value} {vs : List Value} {c : Component} {cs : List Component}
      (head : Describes v c) (tail : DescribeAll vs cs) : DescribeAll (v :: vs) (c :: cs)

end

end Component

namespace Payload

/-- The version among the members of a payload: what stands for a text, or nothing. -/
inductive VersionOf (members : Members) : Text → Prop
  | nothing (h : Vacant members "version") : VersionOf members defaultVersion
  | given {v : Value} {version : Text} (h : members.get? "version" = some v)
      (stands : StandsFor v version) : VersionOf members version

/-- A value describes a payload: an object with an array of components, no two of which have the
same id, and perhaps a version. -/
inductive Describes : Value → Payload → Prop
  | object {members : Members} {items : List Value} {version : Text}
      {components : List Component} (version_of : VersionOf members version)
      (components_mem : members.get? "components" = some (.array items))
      (all : Component.DescribeAll items components)
      (nodup : ((Component.preorderAll components).map Component.id).Nodup) :
      Describes (.object members) ⟨version, components⟩

end Payload

end AgentPanel
