import LanternProject.Connection.Model

/-! # Notifications and their tasks

A task posts its notifications as lambdas that read the task when they run. It is alive as long as
it is in its loop, but after a success it returns and is deleted while the last of them may still
be queued. The notifications find their tasks alive (`OwnersAlive`) exactly as long as every task
is deleted after its notifications have run (`owners_alive_iff`). -/

namespace LanternProject.Connection.Notices

open LanternProject.Lib.Runs LanternProject.Connection.Model

/-- Every queued notification belongs to a task that is not deleted. -/
def OwnersAlive (s : State) : Prop :=
  ∀ i b, .notice i b ∈ s.gameThread → ∃ ph, s.tasks[i]? = some ph ∧ ph ≠ .deleted

/-- If the event deletes a task, none of its notifications is queued. -/
def DeletedLate (s : State) : Event → Prop
  | .delete i => ∀ b, .notice i b ∉ s.gameThread
  | _ => True

theorem next_ne_deleted {c c' : MqttClient} {outcome : Outcome} {ph ph' : Phase}
    (h : ph.next c outcome = some (ph', c')) : ph' ≠ .deleted := by
  rintro rfl
  unfold Phase.next at h
  split at h <;> try split at h
  all_goals simp at h

/-- Another task, or the task itself in a phase other than deleted, changes nothing. -/
theorem alive_set {tasks : List Phase} {i j : ℕ} {ph' : Phase} (hph : i = j → ph' ≠ .deleted)
    (h : ∃ ph, tasks[j]? = some ph ∧ ph ≠ .deleted) :
    ∃ ph, (tasks.set i ph')[j]? = some ph ∧ ph ≠ .deleted := by
  obtain ⟨ph, hj, hne⟩ := h
  by_cases hij : i = j
  · subst hij
    exact ⟨ph', List.getElem?_set_self (List.getElem?_eq_some_iff.mp hj).1, hph rfl⟩
  · exact ⟨ph, by rw [List.getElem?_set_ne hij, hj], hne⟩

theorem alive_connectToServer {s : State} (h : OwnersAlive s) :
    OwnersAlive (connectToServer s) := by
  intro i b hb
  obtain ⟨ph, hi, hne⟩ := h i b hb
  refine ⟨ph, ?_, hne⟩
  show (s.tasks ++ [.queued])[i]? = some ph
  rw [List.getElem?_append_left (List.getElem?_eq_some_iff.mp hi).1]
  exact hi

/-- **One step** keeps the owners alive exactly unless it deletes one of them. -/
theorem ownersAlive_next {s t : State} {e : Event} (h : OwnersAlive s) (hn : Next s e t) :
    OwnersAlive t ↔ DeletedLate s e := by
  cases next_cases hn with
  | run i outcome ph ph' c hi hnext =>
    refine ⟨fun _ => trivial, fun _ j b hb => ?_⟩
    refine alive_set (fun _ => next_ne_deleted hnext) ?_
    rcases List.mem_append.mp hb with hb | hb
    · exact h j b hb
    · -- the notification just posted belongs to the task itself
      cases ph with
      | posting b' =>
        simp only [Phase.posts, List.mem_singleton, Job.notice.injEq] at hb
        rw [hb.1]
        exact ⟨_, hi, by simp⟩
      | _ => cases hb
  | delete i hi =>
    have hlt := (List.getElem?_eq_some_iff.mp hi).1
    constructor
    · intro ht b hb
      obtain ⟨ph, hph, hne⟩ := ht i b hb
      rw [List.getElem?_set_self hlt, Option.some.injEq] at hph
      exact hne hph.symm
    · intro hl j b hb
      refine alive_set (fun hij => ?_) (h j b hb)
      subst hij
      exact absurd hb (hl b)
  | drop hc =>
    refine ⟨fun _ => trivial, fun _ i b hb => h i b ?_⟩
    simpa using hb
  | notice i b jobs hh hj | lost jobs hh hj =>
    refine ⟨fun _ => trivial, fun _ j b hb => h j b ?_⟩
    rw [hj]
    exact List.mem_cons_of_mem _ hb
  | reconnect jobs hh hj =>
    refine ⟨fun _ => trivial, fun _ => alive_connectToServer fun j b hb => h j b ?_⟩
    rw [hj]
    exact List.mem_cons_of_mem _ hb
  | disconnected | callReconnectToServer => exact ⟨fun _ => trivial, fun _ => h⟩
  | handled outcome hh => exact ⟨fun _ => trivial, fun _ => alive_connectToServer h⟩
  | callConnectToServer hh => exact ⟨fun _ => trivial, fun _ => alive_connectToServer h⟩
  | timerFires hh ht =>
    refine ⟨fun _ => trivial, fun _ i b hb => h i b ?_⟩
    simpa using hb

/-- **The notifications find their tasks alive exactly as long as every task is deleted after its
notifications have run.** -/
theorem owners_alive_iff (tr : List (State × Event)) (s : State) (hr : Run Next beginPlay tr s) :
    Always OwnersAlive tr s ↔ Along DeletedLate tr := by
  refine hr.always_iff_along (I := fun _ => True) (A := fun _ _ => True) trivial ?_
    (fun _ _ _ _ _ _ _ _ => trivial) (fun _ _ _ _ h _ hs => ownersAlive_next h hs)
    (fun _ _ => trivial)
  exact fun i b hb => (by cases hb)

theorem owners_alive_iff_connectRun : ∃ tr s, Run Next beginPlay tr s ∧
    tr.map Prod.snd = connectRun ++ [.runJob, .delete 0] ∧
    (Always OwnersAlive tr s ↔ Along DeletedLate tr) := by
  obtain ⟨s, hp⟩ : ∃ s, play beginPlay (connectRun ++ [.runJob, .delete 0]) = some s := ⟨_, rfl⟩
  obtain ⟨tr, hr, htr⟩ := run_of_play hp
  exact ⟨tr, s, hr, htr, owners_alive_iff tr s hr⟩

/-- **A notification can outlive its task**: the task succeeds, returns and is deleted before the
game thread runs the notification. -/
theorem not_always_ownersAlive :
    ¬ ∀ (tr : List (State × Event)) (s : State), Run Next beginPlay tr s → OwnersAlive s := by
  intro h
  have hp : play beginPlay (connectRun ++ [.delete 0]) =
      some ⟨[.deleted], some true, [.notice 0 true], .idle, false, true⟩ := rfl
  obtain ⟨tr, hr, -⟩ := run_of_play hp
  obtain ⟨ph, hph, hne⟩ := h tr _ hr 0 true (List.mem_singleton_self _)
  exact hne (Option.some.inj hph).symm

end LanternProject.Connection.Notices
