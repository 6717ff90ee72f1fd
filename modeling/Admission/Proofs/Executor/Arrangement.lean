import Admission.Executor.Session
import Admission.Proofs.Executor.Courses

/-!
# How orders share the tasks

Every order has tasks of its own, whose roles are as far as the order has got. When one order goes
on, nothing changes for the others.
-/

namespace Admission.Executor

variable {L G W V : Type}

/-- The task was never part of a batch. -/
def Role.IsSingle : Role → Prop
  | .waiting | .free | .dismissed .notAdmitted => True
  | _ => False

lemma Role.IsSingle.eq_free {role : Role} (single : role.IsSingle) (inside : ¬role.IsOutside) :
    role = .free := by
  cases role with
  | waiting => exact absurd (.inl rfl) inside
  | inHand | leaving => exact single.elim
  | free => rfl
  | dismissed why => cases why with
    | notAdmitted => exact absurd (.inr rfl) inside
    | done | failed => exact single.elim

namespace Order

/-- The order is about one task. -/
def IsSingle (order : Order W) : Prop := ∀ tasks timeout, order.demand ≠ .batch tasks timeout

/-- The roles of the tasks are as far as the order has got. -/
def Fits (roles : Nat → Role) (order : Order W) : Prop :=
  match order.stage with
  | .new => ∀ number ∈ order.tasks, roles number = .waiting
  | .asking _ => order.tasks ≠ [] ∧ ∀ number ∈ order.tasks, roles number = .waiting
  | .running _ => ∀ number ∈ order.tasks, roles number = .inHand
  | .awaiting _ => order.IsSingle ∧ ∀ number ∈ order.tasks, roles number ≠ .inHand
  | .collecting => ∀ number ∈ order.tasks, roles number ≠ .inHand

lemma Fits.congr {roles others : Nat → Role} {order : Order W} (fits : order.Fits roles)
    (same : ∀ number ∈ order.tasks, others number = roles number) : order.Fits others := by
  unfold Fits at *
  split at fits
  · exact fun number mem => (same number mem).trans (fits number mem)
  · exact ⟨fits.1, fun number mem => (same number mem).trans (fits.2 number mem)⟩
  · exact fun number mem => (same number mem).trans (fits number mem)
  · exact ⟨fits.1, fun number mem inHand =>
      fits.2 number mem ((same number mem).symm.trans inHand)⟩
  · exact fun number mem inHand => fits number mem ((same number mem).symm.trans inHand)

/-- The orders without the one of a name. -/
def without (orders : List (Order W)) (id : String) : List (Order W) :=
  orders.filter (·.id ≠ id)

/-- The orders with another in place of that of its name. -/
def replace (orders : List (Order W)) (next : Order W) : List (Order W) :=
  orders.map fun other => if other.id = next.id then next else other

lemma mem_without {orders : List (Order W)} {id : String} {order : Order W} :
    order ∈ without orders id ↔ order ∈ orders ∧ order.id ≠ id := by simp [without]

lemma mem_replace {orders : List (Order W)} {next order : Order W}
    (mem : order ∈ replace orders next) :
    order = next ∨ order ∈ orders ∧ order.id ≠ next.id := by
  obtain ⟨other, old, rfl⟩ := List.mem_map.mp mem
  by_cases same : other.id = next.id
  · exact .inl (if_pos same)
  · rw [if_neg same]
    exact .inr ⟨old, same⟩

lemma mem_replace_of_mem {orders : List (Order W)} {next order : Order W} (mem : order ∈ orders)
    (other : order.id ≠ next.id) : order ∈ replace orders next :=
  List.mem_map.mpr ⟨order, mem, if_neg other⟩

lemma next_mem_replace {orders : List (Order W)} {next order : Order W} (mem : order ∈ orders)
    (same : order.id = next.id) : next ∈ replace orders next :=
  List.mem_map.mpr ⟨order, mem, if_pos same⟩

lemma replace_replace (orders : List (Order W)) {first second : Order W}
    (same : first.id = second.id) : replace (replace orders first) second = replace orders second := by
  unfold replace
  rw [List.map_map]
  refine List.map_congr_left fun other _ => ?_
  by_cases mine : other.id = first.id
  · simp [mine, same]
  · simp [mine]

lemma without_replace (orders : List (Order W)) (next : Order W) :
    without (replace orders next) next.id = without orders next.id := by
  induction orders with
  | nil => rfl
  | cons order rest ih =>
    by_cases same : order.id = next.id
    · simpa [without, replace, same] using ih
    · simpa [without, replace, same] using ih

end Order

/-- A batch whose results are collected is on record as done. -/
def Order.IsTold (jobs : Jobs L V G) (order : Order W) : Prop :=
  order.stage = .collecting → .dismissed order.tasks .done ∈ jobs.log

/-- What the caller of a batch is told fits what is on record about its tasks. -/
def Result.IsTrueOf (jobs : Jobs L V G) (tasks : List Nat) : Result V → Prop
  | .all results => .dismissed tasks .done ∈ jobs.log ∧ tasks.mapM jobs.received? = some results
  | .failed error => .dismissed tasks (.failed error) ∈ jobs.log ∨
    ∃ cause, error = .refused cause ∧ .dismissed tasks .notAdmitted ∈ jobs.log
  | .accepted | .one _ => False

/-- Every order has tasks of its own, which have come as far as the order. -/
structure Arranged (batches : Prop) (roles : Nat → Role) (executor : Executor L G W V) : Prop where
  holds : Table.Distinct executor.holds
  ids : ∀ order ∈ executor.orders, ∀ other ∈ executor.orders, order.id = other.id → order = other
  apart : ∀ order ∈ executor.orders, ∀ other ∈ executor.orders, ∀ number ∈ order.tasks,
    number ∈ other.tasks → order = other
  distinct : ∀ order ∈ executor.orders, order.tasks.Nodup
  below : ∀ order ∈ executor.orders, ∀ number ∈ order.tasks, number < executor.jobs.tasks.length
  fits : ∀ order ∈ executor.orders, order.Fits roles
  told : ∀ order ∈ executor.orders, order.IsTold executor.jobs
  handles : ∀ entry ∈ executor.handles, roles entry.2 = .free
  owned : ∀ number, roles number = .inHand → ∃ order ∈ executor.orders, number ∈ order.tasks
  stays : ∀ number, roles number ≠ .leaving
  single : ∀ order ∈ executor.orders, order.IsSingle → ∀ number ∈ order.tasks,
    (roles number).IsSingle
  attached : ∀ order ∈ executor.orders, ¬order.IsSingle → ∀ number ∈ order.tasks,
    executor.jobs.IsAttached number
  alone : ¬batches → (∀ order ∈ executor.orders, order.IsSingle) ∧ ∀ number, (roles number).IsSingle

/-- The order has ended now, if anything has. -/
def Order.Ends (order : Order W) (before after : Executor L G W V) : Prop :=
  after.endings = before.endings ∨
    ∃ ending, after.endings = before.endings ++ [(order.id, ending)] ∧
      ∀ result, ending = .answered result → order.IsSingle ∨ result.IsTrueOf after.jobs order.tasks

section Endings

variable {endings : List (String × Ending (Result V))} {id other : String}
  {ending told : Ending (Result V)}

lemma no_ending (same : endings = endings ++ [(id, ending)]) : False :=
  List.cons_ne_nil _ _ (List.self_eq_append_right.mp same)

/-- Only one thing ends at a time. -/
lemma ending_inj (same : endings ++ [(id, ending)] = endings ++ [(other, told)]) :
    id = other ∧ ending = told := by
  have entry := List.append_cancel_left same
  exact Prod.mk.inj (List.cons.inj entry).1

end Endings

/-- An order which has gone on is gone, or has got somewhere. -/
inductive Order.Becomes (order : Order W) (roles : Nat → Role) (before after : Executor L G W V) :
    Prop
  | gone (orders : after.orders = Order.without before.orders order.id)
      (free : ∀ number ∈ order.tasks, roles number ≠ .inHand) (ends : order.Ends before after)
  | next (next : Order W) (id : next.id = order.id) (demand : next.demand = order.demand)
      (orders : after.orders = Order.replace before.orders next) (fits : next.Fits roles)
      (told : next.IsTold after.jobs) (endings : after.endings = before.endings)

/-- An order has gone on, and nothing has changed for the others. -/
structure Goes (order : Order W) (roles others : Nat → Role) (before after : Executor L G W V) :
    Prop where
  same : ∀ number, number ∉ order.tasks ∨ roles number = .free → others number = roles number
  holds : after.holds = before.holds
  handles : ∀ entry ∈ after.handles, entry ∈ before.handles ∨ others entry.2 = .free
  stays : ∀ number ∈ order.tasks, others number ≠ .leaving
  single : order.IsSingle → ∀ number ∈ order.tasks, (others number).IsSingle
  becomes : order.Becomes others before after

section Arranged

variable {batches : Prop} {roles others : Nat → Role} {before after : Executor L G W V}
  {order : Order W}

lemma tasks_of_demand {next : Order W} (same : next.demand = order.demand) :
    next.tasks = order.tasks := by
  unfold Order.tasks
  rw [same]

lemma Goes.members (goes : Goes order roles others before after) (mem : order ∈ before.orders) :
    ∃ next : Option (Order W),
      (∀ other, other ∈ after.orders ↔
        other ∈ before.orders ∧ other.id ≠ order.id ∨ next = some other) ∧
      (∀ other, next = some other → other.id = order.id ∧ other.demand = order.demand ∧
        other.Fits others ∧ other.IsTold after.jobs) ∧
      (next = none → ∀ number ∈ order.tasks, others number ≠ .inHand) := by
  rcases goes.becomes with ⟨left, free, -⟩ | ⟨next, id, demand, replaced, fits, told, -⟩
  · refine ⟨none, fun other => ?_, nofun, fun _ => free⟩
    rw [left, Order.mem_without]
    simp
  · refine ⟨some next, fun other => ?_, fun other same => ?_, nofun⟩
    · rw [replaced]
      constructor
      · intro there
        rcases Order.mem_replace there with rfl | ⟨kept, different⟩
        · exact .inr rfl
        · exact .inl ⟨kept, id ▸ different⟩
      · rintro (⟨kept, different⟩ | same)
        · exact Order.mem_replace_of_mem kept (id ▸ different)
        · obtain rfl := Option.some.inj same
          exact Order.next_mem_replace mem id.symm
    · obtain rfl := Option.some.inj same
      exact ⟨id, demand, fits, told⟩

theorem Arranged.go [Limiter TaskLabel L G W] (arranged : Arranged batches roles before)
    (mem : order ∈ before.orders) (goes : Goes order roles others before after) {loose left : List (Pass G)}
    (course : Course ⟨before.jobs, loose, roles⟩ ⟨after.jobs, left, others⟩) :
    Arranged batches others after := by
  have grows : before.jobs.tasks.length ≤ after.jobs.tasks.length := course.length_le
  have recorded : before.jobs.log ⊆ after.jobs.log := course.log_subset
  obtain ⟨next, members, is_next, ended⟩ := goes.members mem
  have tasks_next : ∀ other, next = some other → other.tasks = order.tasks :=
    fun other same => tasks_of_demand (is_next other same).2.1
  have different : ∀ other ∈ before.orders, other.id ≠ order.id →
      ∀ number ∈ other.tasks, number ∉ order.tasks := by
    intro other other_mem apart number theirs mine
    exact apart (congrArg Order.id (arranged.apart other other_mem order mem number theirs mine))
  -- Whatever is known of each order is known of those which are left and of the one itself.
  have each : ∀ {P : Order W → Prop}, (∀ other ∈ before.orders, other.id ≠ order.id → P other) →
      (∀ other, next = some other → P other) → ∀ other ∈ after.orders, P other := by
    intro P old new other there
    rcases (members other).mp there with ⟨kept, apart⟩ | same
    · exact old other kept apart
    · exact new other same
  have is_single : ∀ other, next = some other → (other.IsSingle ↔ order.IsSingle) := by
    intro other same
    unfold Order.IsSingle
    rw [(is_next other same).2.1]
  exact {
    holds := goes.holds ▸ arranged.holds
    ids := by
      refine each (fun one one_mem one_apart => each (fun two two_mem _ => ?_) ?_)
        fun one one_next => each ?_ ?_
      · exact arranged.ids one one_mem two two_mem
      · exact fun two two_next same => absurd (same.trans (is_next two two_next).1) one_apart
      · exact fun two _ two_apart same =>
          absurd (same.symm.trans (is_next one one_next).1) two_apart
      · exact fun two two_next _ => Option.some.inj (one_next.symm.trans two_next)
    apart := by
      refine each (fun one one_mem one_apart => each (fun two two_mem _ => ?_) ?_)
        fun one one_next => each ?_ ?_
      · exact arranged.apart one one_mem two two_mem
      · intro two two_next number mine theirs
        rw [tasks_next two two_next] at theirs
        exact absurd theirs (different one one_mem one_apart number mine)
      · intro two two_mem two_apart number mine theirs
        rw [tasks_next one one_next] at mine
        exact absurd mine (different two two_mem two_apart number theirs)
      · exact fun two two_next _ _ _ => Option.some.inj (one_next.symm.trans two_next)
    distinct := by
      refine each (fun other kept _ => arranged.distinct other kept) fun other same => ?_
      rw [tasks_next other same]
      exact arranged.distinct order mem
    below := by
      refine each (fun other kept _ number theirs => ?_) fun other same number mine => ?_
      · exact (arranged.below other kept number theirs).trans_le grows
      · rw [tasks_next other same] at mine
        exact (arranged.below order mem number mine).trans_le grows
    fits := by
      refine each (fun other kept apart => ?_) fun other same => (is_next other same).2.2.1
      refine (arranged.fits other kept).congr fun number theirs => goes.same number (.inl ?_)
      exact different other kept apart number theirs
    told := each
      (fun other kept _ collecting => recorded (arranged.told other kept collecting))
      fun other same => (is_next other same).2.2.2
    handles := by
      intro entry new
      rcases goes.handles entry new with old | free
      · have free := arranged.handles entry old
        exact (goes.same entry.2 (.inr free)).trans free
      · exact free
    owned := by
      intro number inHand
      by_cases mine : number ∈ order.tasks
      · cases still : next with
        | none => exact absurd inHand (ended still number mine)
        | some other =>
          refine ⟨other, (members other).mpr (.inr still), ?_⟩
          rwa [tasks_next other still]
      · rw [goes.same number (.inl mine)] at inHand
        obtain ⟨other, kept, theirs⟩ := arranged.owned number inHand
        refine ⟨other, (members other).mpr (.inl ⟨kept, fun same => mine ?_⟩), theirs⟩
        rwa [← arranged.ids other kept order mem same]
    stays := by
      intro number
      by_cases mine : number ∈ order.tasks
      · exact goes.stays number mine
      · rw [goes.same number (.inl mine)]
        exact arranged.stays number
    single := by
      refine each (fun other kept apart single number theirs => ?_) fun other same single => ?_
      · rw [goes.same number (.inl (different other kept apart number theirs))]
        exact arranged.single other kept single number theirs
      · rw [tasks_next other same]
        exact goes.single ((is_single other same).mp single)
    attached := by
      refine each (fun other kept _ batch number theirs => ?_) fun other same batch number mine => ?_
      · exact course.attached (arranged.attached other kept batch number theirs)
      · rw [is_single other same] at batch
        rw [tasks_next other same] at mine
        exact course.attached (arranged.attached order mem batch number mine)
    alone := by
      intro alone
      constructor
      · refine each (fun other kept _ => (arranged.alone alone).1 other kept) fun other same => ?_
        exact (is_single other same).mpr ((arranged.alone alone).1 order mem)
      · intro number
        by_cases mine : number ∈ order.tasks
        · exact goes.single ((arranged.alone alone).1 order mem) number mine
        · rw [goes.same number (.inl mine)]
          exact (arranged.alone alone).2 number }

lemma Arranged.isBatch (arranged : Arranged batches roles before) (mem : order ∈ before.orders)
    (several : ∀ number ∈ order.tasks, ¬(roles number).IsSingle) : ¬order.IsSingle := by
  intro single
  have free := arranged.single order mem single
  obtain ⟨id, ctx, demand, stage⟩ := order
  cases demand with
  | batch tasks timeout => exact single _ _ rfl
  | submit number | execute number =>
    exact several number List.mem_cons_self (free number List.mem_cons_self)

lemma Arranged.isBatch_of_inHand (arranged : Arranged batches roles before)
    (mem : order ∈ before.orders) (inHand : ∀ number ∈ order.tasks, roles number = .inHand) :
    ¬order.IsSingle := by
  refine arranged.isBatch mem fun number mine => ?_
  rw [inHand number mine]
  exact id

end Arranged

end Admission.Executor
