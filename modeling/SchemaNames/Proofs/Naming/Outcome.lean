import SchemaNames.Naming.Info
import SchemaNames.Proofs.Naming.ElementDecoding
import SchemaNames.Proofs.Naming.ElementReports
import SchemaNames.Proofs.Naming.Registration

/-! The outcome of naming a service: what it consists of when all members are recognized, which
failure stands in its place otherwise, and when it is accepted.
-/

namespace SchemaNames

/-- The outcome of a service whose members are recognized. -/
theorem Service.tryResolve_of_recognized {service : Service}
    (recognized : Member.unrecognized ∉ service.members) (options : Options)
    : service.tryResolve options
      = .ok
          { info :=
              { language := options.language
                effectiveNamespace :=
                  (service.overrides options.language).serviceNamespace.getD
                    service.defaultNamespace
                namespaceOverride := (service.overrides options.language).serviceNamespace
                propertyNames := (service.overrides options.language).propertyNames
                typeNames := keptNames (service.candidates options) }
            errors :=
              service.attributeErrors options.language
                ++ collisionErrors (service.candidates options) } := by
  rw [tryResolve, Service.collisions_eq recognized options]
  rfl

/-- A service with a member that is not recognized has no outcome. -/
theorem Service.tryResolve_of_unrecognized {service : Service}
    (unrecognized : Member.unrecognized ∈ service.members) (options : Options)
    : service.tryResolve options
      = .error
          (.unrecognizedMember service.name (service.members.idxOf .unrecognized)) := by
  simp only [tryResolve, Service.typeNames_collisions_of_unrecognized unrecognized options]
  rfl

/-- A service that has an outcome has no member that is not recognized. -/
theorem Service.recognized_of_tryResolve {service : Service} {options : Options}
    {outcome : NamingOutcome} (lenient : service.tryResolve options = .ok outcome)
    : Member.unrecognized ∉ service.members := by
  intro unrecognized
  rw [tryResolve_of_unrecognized unrecognized] at lenient
  cases lenient

/-- A service without outcome fails at its first member that is not recognized. -/
theorem Service.unrecognized_of_tryResolve {service : Service} {options : Options}
    {failure : Failure} (failed : service.tryResolve options = .error failure)
    : Member.unrecognized ∈ service.members
      ∧ failure = .unrecognizedMember service.name (service.members.idxOf .unrecognized) := by
  by_cases unrecognized : Member.unrecognized ∈ service.members
  · rw [tryResolve_of_unrecognized unrecognized] at failed
    exact ⟨unrecognized, (Except.error.inj failed).symm⟩
  · rw [tryResolve_of_recognized unrecognized] at failed
    cases failed

/-- Names about which nothing was reported are given. -/
theorem NamingOutcome.toResult_of_silent {outcome : NamingOutcome} (silent : outcome.errors = [])
    : outcome.toResult = .ok outcome.info := by
  simp [toResult, isValid, silent]

/-- Names about which something was reported are refused with all of it. -/
theorem NamingOutcome.toResult_of_reported {outcome : NamingOutcome}
    (reported : outcome.errors ≠ [])
    : outcome.toResult = .error (.invalid outcome.errors) := by
  simp [toResult, isValid, reported]

end SchemaNames
