import SchemaNames.Naming.Collisions
import SchemaNames.Proofs.Naming.OfferedNames

/-! The type names that a service generates, in the order in which they are offered to the
registry, and what becomes of each: the first of those that agree in lower case is kept, and
every later one is reported.
-/

namespace SchemaNames

-----------------------------------------------------------------------------------------
-- Items of a list together with those before them
-----------------------------------------------------------------------------------------

/-- What a function gives for the items of `rest`, each with all the items before it, when
`rest` follows `earlier`.
-/
def collectAfter {α β : Type} (f : List α → α → Option β) (earlier rest : List α) : List β :=
  (rest.zipIdx earlier.length).filterMap fun (item, index) =>
    f ((earlier ++ rest).take index) item

@[simp] theorem collectAfter_nil {α β : Type} (f : List α → α → Option β) (earlier : List α)
    : collectAfter f earlier [] = [] :=
  rfl

/-- The first item has exactly `earlier` before it, and the others have it as well. -/
theorem collectAfter_cons {α β : Type} (f : List α → α → Option β) (earlier : List α)
    (item : α) (rest : List α)
    : collectAfter f earlier (item :: rest)
      = (f earlier item).toList ++ collectAfter f (earlier ++ [item]) rest := by
  simp only [collectAfter, List.zipIdx_cons, List.filterMap_cons, List.take_left,
    List.append_assoc, List.singleton_append, List.length_append, List.length_singleton]
  cases f earlier item <;> rfl

/-- Collecting goes through an append, by induction on the first list. -/
theorem collectAfter_append {α β : Type} (f : List α → α → Option β) (earlier left right : List α)
    : collectAfter f earlier (left ++ right)
      = collectAfter f earlier left ++ collectAfter f (earlier ++ left) right := by
  induction left generalizing earlier with
  | nil => simp
  | cons item rest ih => simp [collectAfter_cons, ih]

-----------------------------------------------------------------------------------------
-- Candidates and what becomes of them
-----------------------------------------------------------------------------------------

/-- A type name with the element that generates it. -/
structure Candidate where
  element : Element
  name : String

/-- The type names that a member generates; of a method first that of the request. -/
def Member.candidates (options : Options) : Member → List Candidate
  | .method m =>
      let element := m.toDeclaration.element .method
      [⟨element, Text.capitalize m.name ++ options.requestSuffix⟩,
        ⟨element, Text.capitalize m.name ++ options.responseSuffix⟩]
  | .dataObject d => [⟨d.toDeclaration.element .dataObject, Text.capitalize d.name⟩]
  | .enumeration e => [⟨e.toDeclaration.element .enumeration, Text.capitalize e.name⟩]
  | .errorSet s => [⟨s.toDeclaration.element .errorSet, Text.capitalize s.name⟩]
  | .unrecognized => []

/-- The type names that a service generates: that of its root and those of its members. -/
def Service.candidates (service : Service) (options : Options) : List Candidate :=
  ⟨service.element, Text.capitalize service.name⟩
    :: service.members.flatMap (Member.candidates options)

namespace Candidate

/-- The first of the earlier candidates that agrees with a candidate in lower case. -/
def taker? (earlier : List Candidate) (candidate : Candidate) : Option Candidate :=
  earlier.find? fun other => Text.lowerCase other.name = Text.lowerCase candidate.name

/-- The name of a candidate, unless it is taken. -/
def kept? (earlier : List Candidate) (candidate : Candidate) : Option String :=
  if (candidate.taker? earlier).isNone then some candidate.name else none

/-- The error about a candidate whose name is taken. It stands at the element that generates
the candidate, and it tells the earlier spelling only if that is another one.
-/
def collision (candidate taker : Candidate) : ValidationError :=
  { kind := .duplicateGeneratedType
    message :=
      "duplicate generated type '" ++ candidate.name ++ "' for "
        ++ candidate.element.kind.describe ++ " '" ++ candidate.element.name ++ "'"
        ++ (if taker.name = candidate.name then ""
          else " (conflicts with '" ++ taker.name ++ "')")
    position := candidate.element.position }

/-- The error about a candidate, if its name is taken. -/
def collision? (earlier : List Candidate) (candidate : Candidate) : Option ValidationError :=
  (candidate.taker? earlier).map candidate.collision

end Candidate

/-- The names of the candidates that agree with no earlier one in lower case, in order. -/
def keptNames (candidates : List Candidate) : List String :=
  collectAfter Candidate.kept? [] candidates

/-- The errors about all other candidates, in order. -/
def collisionErrors (candidates : List Candidate) : List ValidationError :=
  collectAfter Candidate.collision? [] candidates

/-- Further candidates add the names of those that no earlier one has taken. -/
theorem keptNames_append (candidates more : List Candidate)
    : keptNames (candidates ++ more)
      = keptNames candidates ++ collectAfter Candidate.kept? candidates more :=
  collectAfter_append Candidate.kept? [] candidates more

/-- Further candidates add errors about those that an earlier one has taken. -/
theorem collisionErrors_append (candidates more : List Candidate)
    : collisionErrors (candidates ++ more)
      = collisionErrors candidates ++ collectAfter Candidate.collision? candidates more :=
  collectAfter_append Candidate.collision? [] candidates more

/-- Two candidates whose names differ in lower case. -/
def Candidate.Apart (a b : Candidate) : Prop :=
  Text.lowerCase a.name ≠ Text.lowerCase b.name

-----------------------------------------------------------------------------------------
-- Every candidate is either kept or reported
-----------------------------------------------------------------------------------------

/-- The name of a candidate is free exactly when all earlier candidates are apart from it. -/
theorem Candidate.taker?_eq_none_iff {earlier : List Candidate} {candidate : Candidate}
    : candidate.taker? earlier = none ↔ ∀ other ∈ earlier, other.Apart candidate := by
  simp [taker?, Apart]

/-- Every candidate gives either a name or an error, by induction on the candidates. -/
theorem length_kept_add_length_collision (earlier rest : List Candidate)
    : (collectAfter Candidate.kept? earlier rest).length
        + (collectAfter Candidate.collision? earlier rest).length
      = rest.length := by
  induction rest generalizing earlier with
  | nil => rfl
  | cons candidate rest ih =>
      have later := ih (earlier ++ [candidate])
      cases taken : candidate.taker? earlier <;>
        simp [collectAfter_cons, Candidate.kept?, Candidate.collision?, taken] <;> omega

/-- Nothing is reported exactly when the candidates are apart from each other and from the
earlier ones, by induction on the candidates.
-/
theorem collectAfter_collision?_eq_nil_iff {earlier rest : List Candidate}
    : collectAfter Candidate.collision? earlier rest = []
      ↔ (∀ candidate ∈ rest, ∀ other ∈ earlier, other.Apart candidate)
        ∧ rest.Pairwise Candidate.Apart := by
  induction rest generalizing earlier with
  | nil => simp
  | cons candidate rest ih =>
      have free : (candidate.collision? earlier).toList = []
          ↔ ∀ other ∈ earlier, other.Apart candidate := by
        simp [Candidate.collision?, Candidate.taker?_eq_none_iff]
      simp only [collectAfter_cons, List.append_eq_nil_iff, free, ih, List.mem_cons,
        List.mem_append, List.not_mem_nil, or_false, forall_eq_or_imp, List.pairwise_cons]
      constructor
      · rintro ⟨here, later, apart⟩
        exact ⟨⟨here, fun next member other earlierOther =>
          later next member other (.inl earlierOther)⟩,
          fun next member => later next member candidate (.inr rfl), apart⟩
      · rintro ⟨⟨here, later⟩, head, apart⟩
        refine ⟨here, ?_, apart⟩
        rintro next member other (earlierOther | rfl)
        · exact later next member other earlierOther
        · exact head next member

/-- Nothing is reported about the candidates of a service exactly when they are all apart. -/
theorem collisionErrors_eq_nil_iff {candidates : List Candidate}
    : collisionErrors candidates = [] ↔ candidates.Pairwise Candidate.Apart := by
  simp [collisionErrors, collectAfter_collision?_eq_nil_iff]

/-- The kept names are apart from the earlier candidates and from each other, by induction on
the candidates.
-/
theorem pairwise_collectAfter_kept? (earlier rest : List Candidate)
    : (∀ name ∈ collectAfter Candidate.kept? earlier rest,
        ∀ other ∈ earlier, Text.lowerCase other.name ≠ Text.lowerCase name)
      ∧ (collectAfter Candidate.kept? earlier rest).Pairwise
          fun a b => Text.lowerCase a ≠ Text.lowerCase b := by
  induction rest generalizing earlier with
  | nil => simp
  | cons candidate rest ih =>
      obtain ⟨fresh, apart⟩ := ih (earlier ++ [candidate])
      have freshLater {name} (member : name ∈ collectAfter Candidate.kept?
          (earlier ++ [candidate]) rest) {other} (earlierOther : other ∈ earlier)
          : Text.lowerCase other.name ≠ Text.lowerCase name :=
        fresh name member other (List.mem_append_left _ earlierOther)
      rw [collectAfter_cons]
      cases taken : candidate.taker? earlier with
      | none =>
          simp only [Candidate.kept?, taken, Option.isNone_none, ↓reduceIte,
            Option.toList_some, List.singleton_append, List.mem_cons, forall_eq_or_imp,
            List.pairwise_cons]
          refine ⟨⟨Candidate.taker?_eq_none_iff.mp taken, fun name member _ => freshLater member⟩,
            fun name member => ?_, apart⟩
          exact fresh name member candidate (List.mem_append_right _ List.mem_cons_self)
      | some taker =>
          simp only [Candidate.kept?, taken, Option.isNone_some, Bool.false_eq_true,
            ↓reduceIte, Option.toList_none, List.nil_append]
          exact ⟨fun name member _ => freshLater member, apart⟩

end SchemaNames
