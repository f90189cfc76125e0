import TeamComm.Library.Mealy

/-!
# Mailboxes with read flags

A mailbox lists slots in the order of their posting, each with a flag which tells whether it was
handed out.  A poll hands out the first unread slots, a browse the first slots, a fetch one slot,
and each of them sets the flags of what it hands out.  Polls never skip, repeat or reorder a slot:
what they deliver over a whole run is a subsequence of what was posted, and a slot they miss is
still unread or was first handed out in another way.
-/

namespace Mailbox

/-- A posted message, known by its identity. -/
@[ext]
structure Slot (Id : Type*) where
  /-- Identity of the message. -/
  id : Id
  /-- Whether the message was handed out. -/
  read : Bool
  deriving DecidableEq

/-- A request to a mailbox. -/
inductive Op (Id : Type*)
  /-- Append a message. -/
  | post (id : Id)
  /-- Hand out the first unread messages. -/
  | poll (limit : Nat)
  /-- Hand out the first messages, read or not. -/
  | browse (limit : Nat)
  /-- Hand out one message. -/
  | fetch (id : Id)
  /-- Leave the mailbox alone. -/
  | idle

/-- A request which hands messages out without looking at their flags. -/
def Op.Overlooks {Id : Type*} (id : Id) : Op Id → Prop
  | .browse _ => True
  | .fetch wanted => wanted = id
  | _ => False

section Slots

variable {Id : Type*}

/-- Identities in order of posting. -/
def ids (box : List (Slot Id)) : List Id := box.map Slot.id

/-- Identities of the unread slots in order of posting. -/
def unread (box : List (Slot Id)) : List Id := ids (box.filter fun slot => !slot.read)

@[simp] theorem ids_append (front back : List (Slot Id)) :
    ids (front ++ back) = ids front ++ ids back :=
  List.map_append

@[simp] theorem unread_append (front back : List (Slot Id)) :
    unread (front ++ back) = unread front ++ unread back := by
  simp [unread]

theorem unread_sublist (box : List (Slot Id)) : (unread box).Sublist (ids box) :=
  List.filter_sublist.map _

/-- The first unread slots are the unread slots of a front part. -/
theorem exists_front_of_take (box : List (Slot Id)) (limit : Nat) :
    ∃ front back, box = front ++ back ∧ (unread box).take limit = unread front := by
  induction box generalizing limit with
  | nil => exact ⟨[], [], rfl, by simp [unread, ids]⟩
  | cons slot box ih =>
      cases limit with
      | zero => exact ⟨[], slot :: box, rfl, by simp [unread, ids]⟩
      | succ limit =>
          rcases slot with ⟨id, _ | _⟩
          · obtain ⟨front, back, rfl, taken⟩ := ih limit
            refine ⟨⟨id, false⟩ :: front, back, rfl, ?_⟩
            simpa [unread, ids] using taken
          · obtain ⟨front, back, rfl, taken⟩ := ih (limit + 1)
            refine ⟨⟨id, true⟩ :: front, back, rfl, ?_⟩
            simpa [unread, ids] using taken

variable [DecidableEq Id]

/-- Set the flag of every slot whose identity is listed. -/
def mark (listed : List Id) (box : List (Slot Id)) : List (Slot Id) :=
  box.map fun slot => if slot.id ∈ listed then { slot with read := true } else slot

@[simp] theorem ids_mark (listed : List Id) (box : List (Slot Id)) :
    ids (mark listed box) = ids box := by
  simp only [ids, mark, List.map_map]
  apply List.map_congr_left
  intro slot _
  simp only [Function.comp_apply]
  split <;> rfl

@[simp] theorem mark_append (listed : List Id) (front back : List (Slot Id)) :
    mark listed (front ++ back) = mark listed front ++ mark listed back :=
  List.map_append

/-- Marking takes the listed identities out of the unread ones and keeps the others in order. -/
theorem unread_mark (listed : List Id) (box : List (Slot Id)) :
    unread (mark listed box) = (unread box).filter fun id => id ∉ listed := by
  induction box with
  | nil => rfl
  | cons slot box ih =>
      rcases slot with ⟨id, read⟩
      by_cases member : id ∈ listed <;> cases read <;> simp_all [mark, unread, ids]

/-- What a request hands out. -/
def handed (box : List (Slot Id)) : Op Id → List Id
  | .poll limit => (unread box).take limit
  | .browse limit => (ids box).take limit
  | .fetch id => if id ∈ ids box then [id] else []
  | _ => []

/-- The mailbox behind a request. -/
def next (box : List (Slot Id)) : Op Id → List (Slot Id)
  | .post id => box ++ [⟨id, false⟩]
  | op => mark (handed box op) box

theorem handed_subset (box : List (Slot Id)) (op : Op Id) : handed box op ⊆ ids box := by
  cases op with
  | poll limit => exact ((List.take_sublist _ _).trans (unread_sublist box)).subset
  | browse limit => exact List.take_subset _ _
  | fetch id =>
      rw [handed]
      split
      next member => simpa using member
      next => exact List.nil_subset _
  | post | idle => exact List.nil_subset _

theorem ids_subset_next (box : List (Slot Id)) (op : Op Id) : ids box ⊆ ids (next box op) := by
  cases op with
  | post id => simp [next]
  | poll | browse | fetch | idle => simp [next]

/-- What is new in a mailbox is unread. -/
theorem mem_unread_next_of_new {box : List (Slot Id)} {op : Op Id} {id : Id}
    (member : id ∈ ids (next box op)) (new : id ∉ ids box) : id ∈ unread (next box op) := by
  cases op with
  | post other =>
      rw [next, ids_append, List.mem_append] at member
      have posted : id = other := by simpa [ids] using member.resolve_left new
      simp [next, unread, ids, posted]
  | poll | browse | fetch | idle => exact absurd (by simpa [next] using member) new

/-- A message stops to be unread when it is handed out, and only then. -/
theorem mem_unread_next_iff {box : List (Slot Id)} {op : Op Id} {id : Id}
    (pending : id ∈ unread box) : id ∈ unread (next box op) ↔ id ∉ handed box op := by
  cases op with
  | post other => simp [next, handed, pending]
  | poll | browse | fetch | idle => simp [next, unread_mark, pending]

theorem not_mem_unread_next_of_handed {box : List (Slot Id)} {op : Op Id} {id : Id}
    (out : id ∈ handed box op) : id ∉ unread (next box op) := by
  cases op with
  | post other => cases out
  | poll | browse | fetch | idle => simp [next, unread_mark, out]

/-- What was handed out once never turns unread again. -/
theorem not_mem_unread_next {box : List (Slot Id)} {op : Op Id} {id : Id}
    (distinct : (ids (next box op)).Nodup) (member : id ∈ ids box) (read : id ∉ unread box) :
    id ∉ unread (next box op) := by
  cases op with
  | post other =>
      have different : id ≠ other := by
        rintro rfl
        rw [next, ids_append, List.nodup_append] at distinct
        exact distinct.2.2 id member id (by simp [ids]) rfl
      rw [next, unread_append, List.mem_append, not_or]
      exact ⟨read, by simpa [unread, ids] using different⟩
  | poll | browse | fetch | idle => simp [next, unread_mark, read]

end Slots

/-! ## Runs -/

/-- Mailboxes as a machine which answers a request with what it hands out. -/
def machine (Id : Type*) [DecidableEq Id] : Mealy (List (Slot Id)) (Op Id) (List Id) where
  step box op := (handed box op, next box op)

/-- Identities in order of posting, read off the requests. -/
def posted {Id : Type*} (ops : List (Op Id)) : List Id :=
  ops.filterMap fun
    | .post id => some id
    | _ => none

section Runs

variable {Id : Type*} [DecidableEq Id]

/-- The mailbox which requests lead to. -/
def boxAfter (ops : List (Op Id)) : List (Slot Id) := (machine Id).run [] ops

/-- Everything the polls of a run hand out. -/
def delivered (ops : List (Op Id)) : List Id :=
  ((machine Id).trace [] ops).flatMap fun step =>
    match step.event with
    | .poll _ => step.output
    | _ => []

/-- A message was first handed out by a request which does not look at flags. -/
def Overlooked (ops : List (Op Id)) (id : Id) : Prop :=
  ∃ step ∈ (machine Id).trace [] ops,
    step.event.Overlooks id ∧ id ∈ unread step.before ∧ id ∉ unread step.after

theorem boxAfter_snoc (ops : List (Op Id)) (op : Op Id) :
    boxAfter (ops ++ [op]) = next (boxAfter ops) op :=
  (machine Id).run_snoc [] ops op

theorem delivered_snoc (ops : List (Op Id)) (op : Op Id) :
    delivered (ops ++ [op]) = delivered ops ++
      match op with
      | .poll limit => (unread (boxAfter ops)).take limit
      | _ => [] := by
  rw [delivered, Mealy.trace_snoc, List.flatMap_append, List.flatMap_singleton]
  cases op <;> rfl

theorem overlooked_snoc (ops : List (Op Id)) (op : Op Id) (id : Id) :
    Overlooked (ops ++ [op]) id ↔ Overlooked ops id ∨
      (op.Overlooks id ∧ id ∈ unread (boxAfter ops) ∧ id ∉ unread (next (boxAfter ops) op)) := by
  simp only [Overlooked, Mealy.trace_snoc, List.mem_append, List.mem_singleton, or_and_right,
    exists_or, exists_eq_left]
  rfl

theorem ids_boxAfter (ops : List (Op Id)) : ids (boxAfter ops) = posted ops := by
  induction ops using List.reverseRecOn with
  | nil => rfl
  | append_singleton ops op ih =>
      have posted_snoc : posted (ops ++ [op]) = posted ops ++ posted [op] := List.filterMap_append
      rw [boxAfter_snoc, posted_snoc, ← ih]
      cases op with
      | post id => simp [next, posted, ids]
      | poll | browse | fetch | idle => simp [next, posted]

/-- What was delivered stands, in order, in a front part without unread slots. -/
private def Settled (delivered : List Id) (box : List (Slot Id)) : Prop :=
  ∃ front back, box = front ++ back ∧ unread front = [] ∧ delivered.Sublist (ids front)

private theorem settled_mark {delivered : List Id} {box : List (Slot Id)} (listed : List Id)
    (settled : Settled delivered box) : Settled delivered (mark listed box) := by
  obtain ⟨front, back, rfl, all_read, ordered⟩ := settled
  refine ⟨mark listed front, mark listed back, mark_append _ _ _, ?_, by simpa using ordered⟩
  rw [unread_mark, all_read, List.filter_nil]

private theorem settled_poll {delivered : List Id} {box : List (Slot Id)} (limit : Nat)
    (settled : Settled delivered box) :
    Settled (delivered ++ (unread box).take limit) (next box (.poll limit)) := by
  obtain ⟨front, back, rfl, all_read, ordered⟩ := settled
  obtain ⟨middle, back, rfl, taken⟩ := exists_front_of_take back limit
  have handed_eq : (unread (front ++ (middle ++ back))).take limit = unread middle := by
    rw [unread_append, all_read, List.nil_append, taken]
  refine ⟨mark (unread middle) (front ++ middle), mark (unread middle) back, ?_, ?_, ?_⟩
  · simp only [next, handed, handed_eq, mark_append, List.append_assoc]
  · rw [unread_mark, unread_append, all_read, List.nil_append, List.filter_eq_nil_iff]
    simp
  · rw [handed_eq, ids_mark, ids_append]
    exact ordered.append (unread_sublist middle)

private theorem settled_delivered (ops : List (Op Id)) :
    Settled (delivered ops) (boxAfter ops) := by
  induction ops using List.reverseRecOn with
  | nil => exact ⟨[], [], rfl, rfl, List.Sublist.refl _⟩
  | append_singleton ops op ih =>
      rw [delivered_snoc, boxAfter_snoc]
      cases op with
      | poll limit => exact settled_poll limit ih
      | post id =>
          obtain ⟨front, back, same, all_read, ordered⟩ := ih
          exact ⟨front, back ++ [⟨id, false⟩], by simp [next, same], all_read,
            by simpa using ordered⟩
      | browse | fetch | idle => simpa only [List.append_nil, next] using settled_mark _ ih

/-- Polls deliver in the order of posting. -/
theorem delivered_sublist (ops : List (Op Id)) : (delivered ops).Sublist (posted ops) := by
  obtain ⟨front, back, same, -, ordered⟩ := settled_delivered ops
  rw [← ids_boxAfter, same, ids_append]
  exact ordered.trans (List.sublist_append_left _ _)

/-- Polls deliver nothing twice. -/
theorem delivered_nodup {ops : List (Op Id)} (fresh : (posted ops).Nodup) : (delivered ops).Nodup :=
  fresh.sublist (delivered_sublist ops)

theorem mem_posted_of_overlooked {ops : List (Op Id)} {id : Id} (overlooked : Overlooked ops id) :
    id ∈ posted ops := by
  obtain ⟨step, member, -, unread_before, -⟩ := overlooked
  obtain ⟨front, op, back, rfl, rfl⟩ := Mealy.mem_trace.mp member
  have seen : id ∈ posted front := ids_boxAfter front ▸ (unread_sublist _).subset unread_before
  rw [posted, List.filterMap_append]
  exact List.mem_append_left _ seen

private theorem account_post {ops : List (Op Id)} {id new : Id} (absent : new ∉ posted ops)
    (account : (id ∈ delivered ops ↔ id ∈ posted ops ∧ id ∉ unread (boxAfter ops) ∧
      ¬Overlooked ops id) ∧ (id ∈ unread (boxAfter ops) → ¬Overlooked ops id)) :
    (id ∈ delivered ops ↔ id ∈ posted ops ++ [new] ∧ id ∉ unread (boxAfter ops) ++ [new] ∧
      ¬Overlooked ops id) ∧ (id ∈ unread (boxAfter ops) ++ [new] → ¬Overlooked ops id) := by
  simp only [List.mem_append, List.mem_singleton, not_or]
  by_cases same : id = new
  · subst same
    have not_overlooked : ¬Overlooked ops id := fun seen => absent (mem_posted_of_overlooked seen)
    have not_delivered : id ∉ delivered ops :=
      fun seen => absent ((delivered_sublist ops).subset seen)
    simp [not_overlooked, not_delivered]
  · simpa [same] using account

private theorem account_poll {delivered posted unread overlooked taken : Prop}
    (account : (delivered ↔ posted ∧ ¬unread ∧ ¬overlooked) ∧ (unread → ¬overlooked))
    (was_posted : unread → posted) (was_unread : taken → unread) :
    (delivered ∨ taken ↔ posted ∧ ¬(unread ∧ ¬taken) ∧ ¬overlooked) ∧
      (unread ∧ ¬taken → ¬overlooked) := by
  tauto

private theorem account_overlooking {delivered posted unread overlooked taken overlooks : Prop}
    (account : (delivered ↔ posted ∧ ¬unread ∧ ¬overlooked) ∧ (unread → ¬overlooked))
    (overlooking : taken → overlooks) :
    (delivered ↔ posted ∧ ¬(unread ∧ ¬taken) ∧
      ¬(overlooked ∨ overlooks ∧ unread ∧ ¬(unread ∧ ¬taken))) ∧
      (unread ∧ ¬taken → ¬(overlooked ∨ overlooks ∧ unread ∧ ¬(unread ∧ ¬taken))) := by
  tauto

/-- A posted message is unread, delivered by a poll, or overlooked, and only one of these. -/
private theorem account {ops : List (Op Id)} (fresh : (posted ops).Nodup) (id : Id) :
    (id ∈ delivered ops ↔ id ∈ posted ops ∧ id ∉ unread (boxAfter ops) ∧ ¬Overlooked ops id) ∧
      (id ∈ unread (boxAfter ops) → ¬Overlooked ops id) := by
  induction ops using List.reverseRecOn with
  | nil => simp [delivered, posted, boxAfter, unread, ids, Overlooked]
  | append_singleton ops op ih =>
      have posted_snoc : posted (ops ++ [op]) = posted ops ++ posted [op] := List.filterMap_append
      rw [posted_snoc] at fresh
      have before := ih fresh.of_append_left
      have was_posted : id ∈ unread (boxAfter ops) → id ∈ posted ops := fun member =>
        ids_boxAfter ops ▸ (unread_sublist _).subset member
      have unread_after : ∀ listed, id ∈ unread (mark listed (boxAfter ops)) ↔
          id ∈ unread (boxAfter ops) ∧ id ∉ listed := by
        simp [unread_mark]
      rw [posted_snoc, delivered_snoc, boxAfter_snoc, overlooked_snoc]
      cases op with
      | post new =>
          have absent : new ∉ posted ops := by
            simpa [posted] using (List.nodup_append.mp fresh).2.2 new
          simpa [Op.Overlooks, next, unread, ids, posted] using account_post absent before
      | poll limit =>
          simp only [next, unread_after, List.mem_append, Op.Overlooks, false_and, or_false]
          simpa [posted, handed] using account_poll before was_posted List.mem_of_mem_take
      | browse limit =>
          have overlooking : id ∈ handed (boxAfter ops) (.browse limit) →
              (Op.browse limit).Overlooks id := fun _ => trivial
          simp only [next, unread_after, List.append_nil]
          simpa only [posted, List.filterMap_cons_none, List.filterMap_nil, List.append_nil]
            using account_overlooking before overlooking
      | fetch wanted =>
          have overlooking : id ∈ handed (boxAfter ops) (.fetch wanted) →
              (Op.fetch wanted).Overlooks id := by
            simp only [handed, Op.Overlooks]
            split
            · exact fun member => (List.mem_singleton.mp member).symm
            · simp
          simp only [next, unread_after, List.append_nil]
          simpa only [posted, List.filterMap_cons_none, List.filterMap_nil, List.append_nil]
            using account_overlooking before overlooking
      | idle => simpa [Op.Overlooks, next, handed, unread_mark, posted] using before

/-- What the polls of a run missed is still unread or was first handed out in another way. -/
theorem not_mem_delivered_iff {ops : List (Op Id)} (fresh : (posted ops).Nodup) {id : Id}
    (member : id ∈ posted ops) :
    id ∉ delivered ops ↔ id ∈ unread (boxAfter ops) ∨ Overlooked ops id := by
  rw [(account fresh id).1]
  simp only [member, true_and]
  tauto

/-! ## Repeated requests -/

private theorem filter_not_mem_take {pending : List Id} {limit : Nat}
    (distinct : (pending.take limit ++ pending.drop limit).Nodup) :
    pending.filter (fun id => id ∉ pending.take limit) = pending.drop limit := by
  have apart := (List.nodup_append.mp distinct).2.2
  conv_lhs => arg 2; rw [← List.take_append_drop limit pending]
  rw [List.filter_append, List.filter_eq_nil_iff.mpr (by simp), List.nil_append,
    List.filter_eq_self.mpr]
  intro id later
  simpa using fun taken => apart id taken id later rfl

/-- Polling moves the window: what was handed out is no longer unread. -/
theorem unread_next_poll {box : List (Slot Id)} (distinct : (ids box).Nodup) (limit : Nat) :
    unread (next box (.poll limit)) = (unread box).drop limit := by
  have pending_distinct := List.take_append_drop limit (unread box) ▸
    distinct.sublist (unread_sublist box)
  simp only [next, unread_mark, handed]
  exact filter_not_mem_take pending_distinct

/-- Browsing does not move the window: every browse in a row hands out the same messages. -/
theorem handed_browses (box : List (Slot Id)) (limit count : Nat) :
    ∀ step ∈ (machine Id).trace box (List.replicate count (.browse limit)),
      step.output = (ids box).take limit := by
  induction count generalizing box with
  | zero => simp
  | succ count ih =>
      intro step member
      rcases List.mem_cons.mp member with rfl | later
      · rfl
      · have same_ids : ids (next box (.browse limit)) = ids box := ids_mark _ _
        rw [← same_ids]
        exact ih _ step later

/-- Polls in a row hand out the unread messages, each once and in order. -/
theorem handed_polls {box : List (Slot Id)} (distinct : (ids box).Nodup) (limit count : Nat) :
    ((machine Id).trace box (List.replicate count (.poll limit))).flatMap Mealy.Transition.output =
      (unread box).take (count * limit) := by
  induction count generalizing box with
  | zero => simp
  | succ count ih =>
      have next_distinct : (ids (next box (.poll limit))).Nodup := by
        simpa [next] using distinct
      rw [List.replicate_succ, Mealy.trace_cons, List.flatMap_cons]
      change
        (unread box).take limit ++ ((machine Id).trace (next box (.poll limit)) _).flatMap _ = _
      rw [ih next_distinct, unread_next_poll distinct, Nat.succ_mul, Nat.add_comm, List.take_add]

end Runs

end Mailbox
