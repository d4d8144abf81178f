import CairnStone.Concurrency.Replay

/-! Work that a thread has begun in one place and has yet to settle in another. What is unsettled at
an instant can be read off the log, and each thread's share of it off its own part of the log.
-/

namespace CairnStone.Concurrency

open List

variable {M : Machine} {ρ Call ε α : Type}
  {log : List (Issued M)}

structure Settlement (M : Machine) (ρ : Type) where
  begun : Issued M → Option ρ
  settles : Issued M → Bool

namespace Settlement

variable (S : Settlement M ρ)
  {issued : Issued M}

/-- What one more command leaves unsettled: it settles all that its thread has begun, or may begin
something itself.
-/
def after (issued : Issued M) (work : List (Nat × ρ)) : List (Nat × ρ) :=
  if S.settles issued then work.filter (fun item => item.1 != issued.thread)
  else ((S.begun issued).map (fun row => (issued.thread, row))).toList ++ work

def unsettled : List (Issued M) → List (Nat × ρ)
  | [] => []
  | issued :: earlier => S.after issued (unsettled earlier)

def settled : List (Issued M) → List ρ
  | [] => []
  | issued :: earlier =>
    settled earlier
      ++ if S.settles issued then
          ((S.unsettled earlier).filter (fun item => item.1 == issued.thread)).map Prod.snd
        else []

variable {S}

@[simp] theorem unsettled_nil : S.unsettled [] = [] := rfl

theorem unsettled_cons (issued : Issued M) (prior : List (Issued M))
    : S.unsettled (issued :: prior) = S.after issued (S.unsettled prior) := rfl

theorem after_of_settles (settles : S.settles issued = true) (work : List (Nat × ρ))
    : S.after issued work = work.filter (fun item => item.1 != issued.thread) := by
  simp [after, settles]

theorem after_of_begun {row : ρ} (settles : S.settles issued = false)
    (begun : S.begun issued = some row) (work : List (Nat × ρ))
    : S.after issued work = (issued.thread, row) :: work := by
  simp [after, settles, begun]

theorem after_of_neither (settles : S.settles issued = false) (begun : S.begun issued = none)
    (work : List (Nat × ρ))
    : S.after issued work = work := by
  simp [after, settles, begun]

/-- One command changes only its own thread's share. -/
theorem filter_after (issued : Issued M) (work : List (Nat × ρ)) (t : Nat)
    : (S.after issued work).filter (fun item => item.1 == t)
      = if issued.thread = t then S.after issued (work.filter (fun item => item.1 == t))
        else work.filter (fun item => item.1 == t) := by
  by_cases own : issued.thread = t
  · subst own
    rw [if_pos rfl]
    cases settles : S.settles issued with
    | true =>
      rw [after_of_settles settles, after_of_settles settles, filter_filter,
        filter_filter]
      exact filter_congr (fun item _ => Bool.and_comm _ _)
    | false =>
      cases begun : S.begun issued with
      | none => rw [after_of_neither settles begun, after_of_neither settles begun]
      | some row =>
        rw [after_of_begun settles begun, after_of_begun settles begun,
          filter_cons_of_pos (by simp)]
  · rw [if_neg own]
    cases settles : S.settles issued with
    | true =>
      rw [after_of_settles settles, filter_filter]
      refine filter_congr (fun item _ => ?_)
      by_cases here : item.1 = t
      · simp [here, Ne.symm own]
      · simp [here]
    | false =>
      cases begun : S.begun issued with
      | none => rw [after_of_neither settles begun]
      | some row =>
        rw [after_of_begun settles begun, filter_cons_of_neg (by simpa using own)]

/-- A thread's share is what its own part of the log leaves unsettled. Witness: induction on the log. -/
theorem unsettled_own (log : List (Issued M)) (t : Nat)
    : (S.unsettled log).filter (fun item => item.1 == t)
      = S.unsettled (log.filter (fun issued => issued.thread == t)) := by
  induction log with
  | nil => rfl
  | cons issued prior ih =>
    rw [unsettled_cons, filter_after, ih]
    by_cases own : issued.thread = t
    · rw [if_pos own, filter_cons_of_pos (by simpa using own), unsettled_cons]
    · rw [if_neg own, filter_cons_of_neg (by simpa using own)]

theorem mem_unsettled {log : List (Issued M)} {t : Nat} {row : ρ}
    (mem : (t, row) ∈ S.unsettled log)
    : ∃ issued ∈ log, issued.thread = t ∧ S.begun issued = some row := by
  induction log with
  | nil => cases mem
  | cons issued prior ih =>
    rw [unsettled_cons] at mem
    cases settles : S.settles issued with
    | true =>
      rw [after_of_settles settles] at mem
      obtain ⟨other, within, found⟩ := ih (mem_of_mem_filter mem)
      exact ⟨other, .tail _ within, found⟩
    | false =>
      cases begun : S.begun issued with
      | none =>
        rw [after_of_neither settles begun] at mem
        obtain ⟨other, within, found⟩ := ih mem
        exact ⟨other, .tail _ within, found⟩
      | some first =>
        rw [after_of_begun settles begun] at mem
        rcases mem_cons.mp mem with same | old
        · obtain ⟨rfl, rfl⟩ := Prod.mk.inj same
          exact ⟨issued, .head _, rfl, begun⟩
        · obtain ⟨other, within, found⟩ := ih old
          exact ⟨other, .tail _ within, found⟩

/-- If no thread has anything unsettled, nothing is. -/
theorem unsettled_eq_nil {h : History M} (each : ∀ t, S.unsettled (h.own t) = [])
    : S.unsettled h.log = [] := by
  rw [eq_nil_iff_forall_not_mem]
  rintro ⟨t, row⟩ mem
  have share : (t, row) ∈ (S.unsettled h.log).filter (fun item => item.1 == t) :=
    mem_filter.mpr ⟨mem, by simp⟩
  rw [unsettled_own] at share
  have none := each t
  unfold History.own at none
  rw [none] at share
  cases share

/-- What is unsettled is one thread's share and the rest. -/
theorem unsettled_perm (h : History M) (t : Nat)
    : (S.unsettled h.log).Perm
        (S.unsettled (h.own t) ++ (S.unsettled h.log).filter (fun item => item.1 != t)) := by
  have split := filter_append_perm (fun item : Nat × ρ => item.1 == t) (S.unsettled h.log)
  rw [unsettled_own] at split
  exact split.symm

theorem settled_cons (issued : Issued M) (prior : List (Issued M))
    : S.settled (issued :: prior)
      = S.settled prior
        ++ if S.settles issued then
            ((S.unsettled prior).filter (fun item => item.1 == issued.thread)).map Prod.snd
          else [] := rfl

/-- What has been begun has been settled or is unsettled, where no step does both.
Witness: induction on the log; settling moves a thread's share.
-/
theorem begun_perm (apart : ∀ issued, S.settles issued = true → S.begun issued = none)
    (log : List (Issued M))
    : (log.filterMap S.begun).Perm (S.settled log ++ (S.unsettled log).map Prod.snd) := by
  induction log with
  | nil => exact .refl _
  | cons issued prior ih =>
    rw [settled_cons, unsettled_cons]
    cases settles : S.settles issued with
    | true =>
      rw [filterMap_cons_none (apart issued settles), after_of_settles settles, if_pos rfl,
        append_assoc, ← map_append]
      refine ih.trans ((List.Perm.map _ ?_).append_left _)
      exact (filter_append_perm (fun item : Nat × ρ => item.1 == issued.thread) _).symm
    | false =>
      rw [if_neg Bool.false_ne_true, append_nil]
      cases begun : S.begun issued with
      | none =>
        rw [filterMap_cons_none begun, after_of_neither settles begun]
        exact ih
      | some row =>
        rw [filterMap_cons_some begun, after_of_begun settles begun, map_cons]
        exact (ih.cons row).trans perm_middle.symm

end Settlement

namespace Config

/-- No call is in progress. -/
def Quiet (config : Config M Call ε α) : Prop :=
  ∀ thread ∈ config.threads, thread.answer.isSome = true

instance decidableQuiet (config : Config M Call ε α) : Decidable config.Quiet :=
  inferInstanceAs (Decidable (∀ thread ∈ config.threads, _))

theorem Quiet.answered {config : Config M Call ε α} (quiet : config.Quiet) {t : Nat}
    {thread : Thread M Call ε α} (found : config.threads[t]? = some thread)
    : ∃ answer, thread.answer = some answer :=
  Option.isSome_iff_exists.mp (quiet thread (mem_of_getElem? found))

end Config

/-- What the threads have issued of one kind is what each has, thread by thread. Witness: induction on the
threads, whose entries are filtered out one by one.
-/
theorem filterMap_log_perm {β γ : Type} {f : Issued M → Option γ} {g : β → Option γ}
    {threads : List β} (noted : ∀ issued ∈ log, issued.thread < threads.length)
    (each
      : ∀ t thread, threads[t]? = some thread
        → (log.filter (fun issued => issued.thread == t)).filterMap f = (g thread).toList)
    : (log.filterMap f).Perm (threads.filterMap g) := by
  induction threads using List.reverseRecOn generalizing log with
  | nil =>
    cases log with
    | nil => exact .refl _
    | cons issued prior => exact absurd (noted issued (.head _)) (Nat.not_lt_zero _)
  | append_singleton threads thread ih =>
    let last (issued : Issued M) : Bool := issued.thread == threads.length
    have newest : (log.filter last).filterMap f = (g thread).toList :=
      each threads.length thread (by simp)
    have rest : ((log.filter (fun issued => !last issued)).filterMap f).Perm (threads.filterMap g) := by
      refine ih (fun issued mem => ?_) (fun t other found => ?_)
      · obtain ⟨within, different⟩ := mem_filter.mp mem
        have bound := noted issued within
        simp only [last, Bool.not_eq_true', beq_eq_false_iff_ne, length_append,
          length_singleton] at different bound
        omega
      · have inside := (List.getElem?_eq_some_iff.mp found).1
        rw [← each t other (by rw [getElem?_append_left inside]; exact found),
          filter_filter]
        congr 1
        refine filter_congr (fun issued _ => ?_)
        by_cases here : issued.thread = t
        · have different : t ≠ threads.length := by omega
          simp [last, here, different]
        · simp [here]
    have split := (filter_append_perm last log).symm.filterMap f
    rw [filterMap_append, newest] at split
    have single : [thread].filterMap g = (g thread).toList := by
      cases value : g thread with
      | none => exact filterMap_cons_none value
      | some made => exact filterMap_cons_some value
    rw [filterMap_append, single]
    exact split.trans (perm_append_comm.trans (rest.append_right _))

theorem countP_log_eq {β : Type} {p : Issued M → Bool} {q : β → Bool} {threads : List β}
    (noted : ∀ issued ∈ log, issued.thread < threads.length)
    (each
      : ∀ t thread, threads[t]? = some thread
        → (log.filter (fun issued => issued.thread == t)).countP p = if q thread then 1 else 0)
    : log.countP p = threads.countP q := by
  let f (issued : Issued M) : Option Unit := if p issued then some () else none
  let g (thread : β) : Option Unit := if q thread then some () else none
  have count (l : List (Issued M)) : l.filterMap f = List.replicate (l.countP p) () := by
    induction l with
    | nil => rfl
    | cons issued prior ih =>
      cases holds : p issued with
      | true => simp [f, holds, ih, replicate_succ]
      | false => simp [f, holds, ih]
  have count' : (threads.filterMap g).length = threads.countP q := by
    rw [length_filterMap_eq_countP]
    refine countP_congr (fun thread _ => ?_)
    cases holds : q thread <;> simp [g, holds]
  have perm : (log.filterMap f).Perm (threads.filterMap g) := by
    refine filterMap_log_perm noted (fun t thread found => ?_)
    rw [count, each t thread found]
    cases holds : q thread <;> simp [g, holds]
  rw [← count', ← perm.length_eq, count, length_replicate]

end CairnStone.Concurrency
