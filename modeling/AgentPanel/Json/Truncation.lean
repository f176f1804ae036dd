import AgentPanel.Json.Document

/-!
# Truncated values

What may be left of a document after its end was cut off and its open strings and containers were
closed: values that are whole or truncated in the last place only, so nothing in them is invented.
-/

namespace AgentPanel.Json

/-- What may be left of a string: the code points of its first atoms, and a backslash if the cut was
inside the escape of the next one. The last of the first atoms may be half of a pair. -/
inductive Atom.Truncation : Text → List Atom → Prop
  | between (kept lost : List Atom) : Truncation (points kept) (kept ++ lost)
  | inside (kept : List Atom) (a : Atom) (lost : List Atom) (h : a.isEscape) :
      Truncation (points kept ++ [CodePoint.scalar '\\']) (kept ++ a :: lost)

namespace Document

mutual

/-- What may be left of a document. -/
inductive Truncation : Value → Document → Prop
  | whole {d : Document} {v : Value} (h : d.value? = some v) : Truncation v d
  | string {t : Text} {atoms : List Atom} (h : Atom.Truncation t atoms) :
      Truncation (.text t) (string atoms)
  | number {kept lost : Text} {v : Value} (literal : isNumber kept)
      (h : numberValue? kept = some v) : Truncation v (number (kept ++ lost))
  | array {gap : Text} {vs : List Value} {items : List (Spaced Document)}
      (h : ItemsTruncation vs items) : Truncation (.array vs) (array gap items)
  | object {gap : Text} {kept : Members} {members : List (Spaced (List Atom) × Spaced Document)}
      (h : MembersTruncation kept members) : Truncation (.object kept) (object gap members)

/-- What may be left of the items of an array: the first ones, the last of which may be
truncated. -/
inductive ItemsTruncation : List Value → List (Spaced Document) → Prop
  | lost (items : List (Spaced Document)) : ItemsTruncation [] items
  | last {v : Value} {item : Spaced Document} (h : Truncation v item.inner)
      (lost : List (Spaced Document)) : ItemsTruncation [v] (item :: lost)
  | cons {v : Value} {vs : List Value} {item : Spaced Document} {items : List (Spaced Document)}
      (head : item.inner.value? = some v) (tail : ItemsTruncation vs items) :
      ItemsTruncation (v :: vs) (item :: items)

/-- What may be left of the members of an object: the first ones under their keys, the last of which
may have a truncated value. -/
inductive MembersTruncation : Members → List (Spaced (List Atom) × Spaced Document) → Prop
  | lost (members : List (Spaced (List Atom) × Spaced Document)) : MembersTruncation [] members
  | last {v : Value} {key : Spaced (List Atom)} {item : Spaced Document}
      (h : Truncation v item.inner) (lost : List (Spaced (List Atom) × Spaced Document)) :
      MembersTruncation [(Atom.points key.inner, v)] ((key, item) :: lost)
  | cons {v : Value} {kept : Members} {key : Spaced (List Atom)} {item : Spaced Document}
      {members : List (Spaced (List Atom) × Spaced Document)} (head : item.inner.value? = some v)
      (tail : MembersTruncation kept members) :
      MembersTruncation ((Atom.points key.inner, v) :: kept) ((key, item) :: members)

end

end Document

end AgentPanel.Json
