import RansomShield.System.View

/-!
# Isolation between processes

What the tracker does with a process depends on the actions of that process and on the
configuration only.  Two runs that agree on these agree on everything the process can observe
(`isolation`), whatever other processes do in between and whichever buckets they share with it.
-/

namespace RansomShield

variable {upcase : UInt16 → UInt16} {s₁ s₂ : SystemState} {as₁ as₂ : List Action}

/-- **Isolation between processes.**  In two runs that contain the same actions of the process `p`
(its calls with their image names and times, their steps, its removals) and the same changes of the
configuration in the same order, but arbitrary other actions anywhere: after each of these actions
`p` sees the same context, the same outcomes of its calls, with the same notifications, and the
same log; and so it does in the end. -/
theorem isolation (p : UInt32) (hrun₁ : (system upcase).run SystemState.init as₁ = some s₁)
    (hrun₂ : (system upcase).run SystemState.init as₂ = some s₂)
    (hsame : as₁.filterMap (Action.ofProcess p) = as₂.filterMap (Action.ofProcess p)) :
    Process.observations upcase p SystemState.init as₁ =
        Process.observations upcase p SystemState.init as₂ ∧
      rsLookupProcessContext s₁.driver p = rsLookupProcessContext s₂.driver p ∧
      ∀ serial, s₁.result ⟨p, serial⟩ = s₂.result ⟨p, serial⟩ := by
  -- both runs are one run of the machine of the process
  have hview : Process.view p s₁ = Process.view p s₂ := by
    have hview₁ := Process.run_view p sound_init hrun₁
    have hview₂ := Process.run_view p sound_init hrun₂
    rw [hsame] at hview₁
    exact Option.some.inj (hview₁.symm.trans hview₂)
  refine ⟨?_, congrArg Process.State.context hview, ?_⟩
  · rw [Process.observations_eq p sound_init hrun₁, Process.observations_eq p sound_init hrun₂,
      hsame]
  · intro serial
    rw [← Process.view_result, ← Process.view_result, hview]

/-- One operation of the process 8. -/
def oneOperation : List Action :=
  [.call ⟨8, 0⟩ none (.ofTicks 5), .advance ⟨8, 0⟩ .firstSection,
    .advance ⟨8, 0⟩ (.allocate true), .advance ⟨8, 0⟩ .secondSection]

/-- One operation of the process 8, and in between one of the process 1029, which hashes to the
same bucket, and its removal. -/
def oneOperationAmongOthers : List Action :=
  [.call ⟨1029, 0⟩ none (.ofTicks 4), .call ⟨8, 0⟩ none (.ofTicks 5),
    .advance ⟨1029, 0⟩ .firstSection, .advance ⟨8, 0⟩ .firstSection,
    .advance ⟨1029, 0⟩ (.allocate true), .advance ⟨1029, 0⟩ .secondSection,
    .advance ⟨8, 0⟩ (.allocate true), .advance ⟨8, 0⟩ .secondSection,
    .control (.removeProcessContext 1029)]

theorem isolation_one :
    ∃ s₁ s₂, (system id).run SystemState.init oneOperation = some s₁ ∧
      (system id).run SystemState.init oneOperationAmongOthers = some s₂ ∧
      rsLookupProcessContext s₁.driver 8 = rsLookupProcessContext s₂.driver 8 := by
  obtain ⟨s₁, h₁, -⟩ := Machine.exists_of_any (system id) (fun _ => true) SystemState.init
    oneOperation (by decide +kernel)
  obtain ⟨s₂, h₂, -⟩ := Machine.exists_of_any (system id) (fun _ => true) SystemState.init
    oneOperationAmongOthers (by decide +kernel)
  exact ⟨s₁, s₂, h₁, h₂, (isolation 8 h₁ h₂ rfl).2.1⟩

end RansomShield
