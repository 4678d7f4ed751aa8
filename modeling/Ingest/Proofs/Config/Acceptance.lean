import Ingest.Config.Deploy
import Ingest.Config.Import
import Ingest.Proofs.Result
/-!
# Accepted configurations

A text is accepted when it can be read and what it says passes the checks.  What the checks say
about the provider of an import and the task of a deployment is stated here once, for all that
relies on it later.
-/

namespace Ingest

open Json

/-! ## Texts -/

theorem accept_of_read {α : Type} {read : Except Defect α} {a : α} (h : read = .ok a)
    (check : α → Except ConfigProblem Unit) :
    (do
      let a ← read.mapError ConfigProblem.malformed
      check a
      return a) = (check a).map fun _ => a := by
  subst h
  change (check a >>= fun _ => .ok a) = _
  cases check a <;> rfl

theorem accept_ok_iff {α : Type} {read : Except Defect α} {check : α → Except ConfigProblem Unit}
    {a : α} :
    (do
      let a ← read.mapError ConfigProblem.malformed
      check a
      return a) = .ok a ↔ read = .ok a ∧ check a = .ok () := by
  cases read with
  | error defect =>
      constructor
      · intro h
        cases h
      · rintro ⟨h, -⟩
        cases h
  | ok b =>
      rw [accept_of_read rfl]
      constructor
      · intro h
        cases hcheck : check b with
        | error problem =>
            rw [hcheck] at h
            cases h
        | ok u =>
            rw [hcheck] at h
            cases h
            exact ⟨rfl, hcheck⟩
      · rintro ⟨h, hcheck⟩
        cases h
        rw [hcheck]
        rfl

/-! ## Imports -/

namespace ImportConfig

theorem ofText_ok_iff {text : String} {c : ImportConfig} :
    ofText text = .ok c ↔ parse text = .ok c ∧ c.validate = .ok () := accept_ok_iff

theorem validate_ok_iff {c : ImportConfig} : c.validate = .ok () ↔
    require "endPoint" c.endPoint = .ok () ∧ require "uis" c.identityService = .ok () ∧
      require "mcs" c.contentService = .ok () ∧ ¬(!c.createProvider && c.providerName.isNone) ∧
      Proxy.check c.proxy = .ok () ∧ checkProviderData c.providerValue = .ok () := by
  unfold validate
  rw [check_eq_ok_iff, check_eq_ok_iff, check_eq_ok_iff, guard_eq_ok_iff, check_eq_ok_iff]

/-- The provider is named, or it is to be created and a name can be made up. -/
theorem provider_of_validate {c : ImportConfig} (h : c.validate = .ok ()) :
    c.createProvider = true ∨ ∃ name, c.providerName = some name := by
  obtain ⟨-, -, -, hprovider, -⟩ := validate_ok_iff.1 h
  cases hcreate : c.createProvider with
  | true => exact .inl rfl
  | false =>
      cases hname : c.providerName with
      | some name => exact .inr ⟨name, rfl⟩
      | none =>
          rw [hcreate, hname] at hprovider
          exact absurd rfl hprovider

theorem providerName_ne_empty {c : ImportConfig} {name : String}
    (h : c.providerName = some name) : name ≠ "" := by
  have hname := (Option.filter_eq_some_iff.1 h).2
  rintro rfl
  exact absurd hname (by decide)

theorem dataSetId_ne_empty {c : ImportConfig} {id : String} (h : c.dataSetId = some id) :
    id ≠ "" := by
  have hid := (Option.filter_eq_some_iff.1 h).2
  rintro rfl
  exact absurd hid (by decide)

end ImportConfig

/-! ## Deployments -/

namespace DeployConfig

theorem ofText_ok_iff {text : String} {c : DeployConfig} :
    ofText text = .ok c ↔ parse text = .ok c ∧ c.validate = .ok () := accept_ok_iff

theorem ofText_of_parse {text : String} {c : DeployConfig} (h : parse text = .ok c) :
    ofText text = c.validate.map fun _ => c := accept_of_read h validate

theorem dispatch_eq_some_iff {c : DeployConfig} {dps : String} {task : TaskSection} :
    c.dispatch = some (dps, task) ↔ c.dps = some dps ∧ c.task = some task := by
  unfold dispatch
  cases c.dps <;> cases c.task <;> simp

theorem dispatch_eq_none_iff {c : DeployConfig} :
    c.dispatch = none ↔ c.dps = none ∨ c.task = none := by
  unfold dispatch
  cases c.dps <;> cases c.task <;> simp

def Submittable (task : TaskSection) : Prop :=
  Text.isBlank task.topic = false ∧ ∃ message, TaskMessage.ofSection task = .ok message

theorem checkTask_ok_iff {c : DeployConfig} :
    c.checkTask = .ok () ↔
      ∀ dps task, c.dps = some dps → c.task = some task → Submittable task := by
  unfold checkTask
  cases hdispatch : c.dispatch with
  | none =>
      have hnone := dispatch_eq_none_iff.1 hdispatch
      constructor
      · rintro - dps task hdps htask
        rw [hdps, htask] at hnone
        simp at hnone
      · intro _
        rfl
  | some dispatched =>
      obtain ⟨dps, task⟩ := dispatched
      obtain ⟨hdps, htask⟩ := dispatch_eq_some_iff.1 hdispatch
      have hone : (∀ dps' task', c.dps = some dps' → c.task = some task' → Submittable task') ↔
          Submittable task := by
        rw [hdps, htask]
        simp
      rw [hone, Submittable]
      cases hblank : Text.isBlank task.topic with
      | true => simp [hblank]
      | false => cases hmessage : TaskMessage.ofSection task <;> simp [hblank, hmessage]

end DeployConfig

end Ingest
