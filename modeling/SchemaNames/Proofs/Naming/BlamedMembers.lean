import SchemaNames.Proofs.Naming.CollisionReport

/-! Members that are blamed for collisions. Without them a service has no collision, and what the
other members generate is there before and after, although a blamed member may have taken a name
of its own and so be the reason why another one is blamed.
-/

namespace SchemaNames

-----------------------------------------------------------------------------------------
-- What is reported member by member
-----------------------------------------------------------------------------------------

/-- The registry after one more member, and what is reported about the member. -/
def TypeRegistry.registerMember (options : Options) (registry : TypeRegistry) (member : Member)
    : TypeRegistry × List ValidationError :=
  match member.element?, member.typeNames? options with
  | some element, some names => registry.register element names
  | _, _ => (registry, [])

/-- Members that are registered in turn, each with what is then reported about it. -/
def TypeRegistry.blame (options : Options) (registry : TypeRegistry)
    : List Member → List (Member × List ValidationError)
  | [] => []
  | member :: rest =>
      let (registered, errors) := registry.registerMember options member
      (member, errors) :: registered.blame options rest

/-- The members of a service, each with what is reported when its names are registered. -/
def Service.blame (service : Service) (options : Options)
    : List (Member × List ValidationError) :=
  (TypeRegistry.tryInsert {} service.typeName).1.blame options service.members

/-- The members about which nothing is reported, in their order. -/
def unblamed (members : List (Member × List ValidationError)) : List Member :=
  (members.filter (·.2 = [])).map (·.1)

/-- The service without the members that are blamed. -/
def Service.withoutBlamed (service : Service) (options : Options) : Service :=
  { service with members := unblamed (service.blame options) }

/-- Every member is listed once, by induction on the members. -/
theorem TypeRegistry.map_fst_blame (options : Options) (registry : TypeRegistry)
    (members : List Member)
    : (registry.blame options members).map (·.1) = members := by
  induction members generalizing registry with
  | nil => rfl
  | cons member rest ih => rw [blame, List.map_cons, ih]

/-- All that is reported about type names is reported about one member after the other, by
induction on the members.
-/
theorem TypeRegistry.errors_registerMembers (service : Service) (options : Options)
    (registry : TypeRegistry) (index : Nat) {members : List Member}
    (recognized : Member.unrecognized ∉ members)
    : (registry.registerMembers service options index members).errors
      = (registry.blame options members).flatMap (·.2) := by
  induction members generalizing registry index with
  | nil => rfl
  | cons member rest ih =>
      obtain ⟨here, later⟩ := not_or.mp (mt List.mem_cons.mpr recognized)
      obtain ⟨element, names, isElement, hasNames, -⟩ :=
        Member.candidates_of_recognized (Ne.symm here) options
      simp only [registerMembers, blame, registerMember, isElement, hasNames, List.flatMap_cons,
        ih _ _ later]

-----------------------------------------------------------------------------------------
-- Candidates of unblamed members
-----------------------------------------------------------------------------------------

/-- The type names of a member are those of its candidates, by cases on its kind. -/
theorem Member.map_name_candidates (member : Member) (options : Options)
    : (member.candidates options).map (·.name) = (member.typeNames? options).getD [] := by
  cases member <;> rfl

/-- Candidates about which nothing is reported are all kept, by induction on the candidates. -/
theorem collectAfter_kept?_of_silent {earlier rest : List Candidate}
    (silent : collectAfter Candidate.collision? earlier rest = [])
    : collectAfter Candidate.kept? earlier rest = rest.map (·.name) := by
  induction rest generalizing earlier with
  | nil => rfl
  | cons candidate rest ih =>
      rw [collectAfter_cons] at silent ⊢
      obtain ⟨here, later⟩ := List.append_eq_nil_iff.mp silent
      have free : candidate.taker? earlier = none := by
        simpa [Candidate.collision?] using here
      rw [ih later, Candidate.kept?, free]
      rfl

/-- The names of unblamed members are kept, in their order. Witness: induction on the members with
a registry that holds the earlier candidates, where a member without error has all its candidates
kept.
-/
theorem TypeRegistry.Holds.sublist_unblamed {registry : TypeRegistry} {earlier : List Candidate}
    (holds : registry.Holds (earlier.map (·.name))) (options : Options) {members : List Member}
    (recognized : Member.unrecognized ∉ members)
    : (((unblamed (registry.blame options members)).flatMap (Member.candidates options)).map
        (·.name)).Sublist
        (collectAfter Candidate.kept? earlier (members.flatMap (Member.candidates options))) := by
  induction members generalizing registry earlier with
  | nil => exact .refl []
  | cons member rest ih =>
      obtain ⟨here, later⟩ := not_or.mp (mt List.mem_cons.mpr recognized)
      obtain ⟨element, names, isElement, hasNames, own⟩ :=
        Member.candidates_of_recognized (Ne.symm here) options
      obtain ⟨holdsMore, -, reported⟩ := register_eq holds element names
      rw [← own] at holdsMore reported
      have others := ih holdsMore later
      simp only [blame, registerMember, isElement, hasNames, unblamed, List.flatMap_cons,
        collectAfter_append]
      by_cases silent : (registry.register element names).2 = []
      · rw [List.filter_cons_of_pos (by simpa using silent), List.map_cons, List.flatMap_cons,
          List.map_append, collectAfter_kept?_of_silent (reported.symm.trans silent)]
        exact others.append_left _
      · rw [List.filter_cons_of_neg (by simpa using silent)]
        exact others.trans (List.sublist_append_right _ _)

-----------------------------------------------------------------------------------------
-- Services without blamed members
-----------------------------------------------------------------------------------------

namespace Service

/-- The type names of a service are those of its candidates. -/
theorem map_name_candidates (service : Service) (options : Options)
    : (service.candidates options).map (·.name)
      = service.typeName
        :: service.members.flatMap fun member => (member.typeNames? options).getD [] := by
  simp only [candidates, List.map_cons, List.map_flatMap, Member.map_name_candidates]
  rfl

/-- Without the blamed members a service generates some of the names that it keeps with them. -/
theorem sublist_withoutBlamed {service : Service}
    (recognized : Member.unrecognized ∉ service.members) (options : Options)
    : (((service.withoutBlamed options).candidates options).map (·.name)).Sublist
        (keptNames (service.candidates options)) := by
  have others := service.holds_typeName.sublist_unblamed options recognized
  exact others.cons_cons service.typeName

/-- A service without the blamed members has only recognized ones if it had no other before. -/
theorem recognized_withoutBlamed {service : Service}
    (recognized : Member.unrecognized ∉ service.members) (options : Options)
    : Member.unrecognized ∉ (service.withoutBlamed options).members := by
  intro unrecognized
  obtain ⟨entry, listed, same⟩ := List.mem_map.mp unrecognized
  apply recognized
  rw [← TypeRegistry.map_fst_blame options _ service.members, ← same]
  exact List.mem_map_of_mem (List.mem_filter.mp listed).1

/-- Candidates of which some names of the kept ones are all names have no collision, as no two
names that are kept agree in lower case.
-/
theorem collisions_of_sublist {service : Service} {options : Options}
    (recognized : Member.unrecognized ∉ service.members) {candidates : List Candidate}
    (kept : ((service.candidates options).map (·.name)).Sublist (keptNames candidates))
    : service.collisions options
      = { typeNames := .ok ((service.candidates options).map (·.name)), errors := [] } := by
  have apart := List.pairwise_map.mp ((pairwise_collectAfter_kept? [] candidates).2.sublist kept)
  have silent : collisionErrors (service.candidates options) = [] :=
    collisionErrors_eq_nil_iff.mpr apart
  rw [collisions_eq recognized, silent, keptNames, collectAfter_kept?_of_silent silent]

/-- Deleting the members that are blamed repairs a service. Everything that is reported about its
type names is reported about one member after the other; the root and each member about which
nothing is reported have all their names; and the service without the other members has no
collision and exactly the names of its root and of the members that are left, which are some of
the former names in their order.
-/
theorem collisions_withoutBlamed (service : Service) (options : Options)
    (recognized : Member.unrecognized ∉ service.members)
    : let report := service.collisions options
      let repaired := service.withoutBlamed options
      let own (member : Member) : List String := (member.typeNames? options).getD []
      (service.blame options).map (·.1) = service.members
      ∧ report.errors = (service.blame options).flatMap (·.2)
      ∧ ∃ names,
          report.typeNames = .ok names
          ∧ service.typeName ∈ names
          ∧ (∀ member ∈ repaired.members, ∀ name ∈ own member, name ∈ names)
          ∧ repaired.collisions options
            = { typeNames := .ok (service.typeName :: repaired.members.flatMap own)
                errors := [] }
          ∧ (service.typeName :: repaired.members.flatMap own).Sublist names := by
  intro report repaired own
  have kept := sublist_withoutBlamed recognized options
  have repair := collisions_of_sublist (recognized_withoutBlamed recognized options) kept
  rw [map_name_candidates] at kept repair
  refine ⟨TypeRegistry.map_fst_blame options _ service.members,
    TypeRegistry.errors_registerMembers service options _ 0 recognized,
    keptNames (service.candidates options), ?_, ?_, ?_, repair, kept⟩
  · exact congrArg (·.typeNames) (collisions_eq recognized options)
  · exact kept.subset List.mem_cons_self
  · intro member unblamed name generated
    exact kept.subset (List.mem_cons_of_mem _ (List.mem_flatMap.mpr ⟨member, unblamed, generated⟩))

/-- A method that is blamed for its request type takes the name of its response type before a data
object; without both of them two members are left, and they collide with nothing.
-/
theorem collisions_withoutBlamed_halfTaken
    : let request : Member := .dataObject { name := "getRequest" }
      let color : Member := .enumeration { name := "color" }
      let service : Service :=
        { name := "api"
          members :=
            [request, .method { name := "get" }, .dataObject { name := "getResponse" }, color] }
      Member.unrecognized ∉ service.members
      ∧ (service.collisions {}).errors.length = 2
      ∧ (service.withoutBlamed {}).members = [request, color]
      ∧ (service.withoutBlamed {}).collisions {}
        = { typeNames := .ok ["Api", "GetRequest", "Color"], errors := [] }
      ∧ ∃ names,
          (service.collisions {}).typeNames = .ok names
          ∧ names = ["Api", "GetRequest", "GetResponse", "Color"]
          ∧ ["Api", "GetRequest", "Color"].Sublist names := by
  intro request color service
  have recognized : Member.unrecognized ∉ service.members := by decide
  obtain ⟨-, errors, names, kept, -, -, repaired, sublist⟩ :=
    collisions_withoutBlamed service {} recognized
  have left : (service.withoutBlamed {}).members = [request, color] := by decide +kernel
  have generated
      : service.typeName
          :: [request, color].flatMap (fun member => (member.typeNames? {}).getD [])
        = ["Api", "GetRequest", "Color"] := by
    decide +kernel
  rw [left, generated] at repaired sublist
  refine ⟨recognized, ?_, left, repaired, names, kept, ?_, sublist⟩
  · rw [errors]
    decide +kernel
  · rw [collisions_eq recognized] at kept
    rw [← Except.ok.inj kept]
    decide +kernel

end Service

end SchemaNames
