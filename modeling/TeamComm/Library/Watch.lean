import Mathlib.Tactic.Common

/-!
# Watch channels

Senders replace a value, and one receiver waits until the value is another than it has seen.  A
receiver which waits comes back as well once no sender is left, and senders keep the value as it is
once there is no receiver.
-/

/-- A value between its senders and its receiver. -/
structure Watch (Value : Type*) where
  /-- The value which was sent last. -/
  value : Value
  /-- How many times a value was sent. -/
  version : Nat
  /-- The version which the receiver has seen. -/
  seen : Nat
  /-- How many senders there are. -/
  senders : Nat
  /-- There is a receiver. -/
  receiver : Bool
  /-- The receiver has seen no version which is yet to come. -/
  seen_le : seen ≤ version

/-- What a receiver which waits for a change learns. -/
inductive Changed
  /-- Nothing yet. -/
  | pending
  /-- A value was sent since it last looked. -/
  | changed
  /-- There is nobody left to send one. -/
  | closed
  deriving DecidableEq

namespace Watch

variable {Value : Type*}

/-- A channel with one sender. -/
def channel (value : Value) : Watch Value where
  value
  version := 0
  seen := 0
  senders := 1
  receiver := true
  seen_le := Nat.le_refl 0

/-- Send a value, which fails without a receiver. -/
def send (watch : Watch Value) (value : Value) : Watch Value :=
  if watch.receiver then
    { watch with
      value
      version := watch.version + 1
      seen_le := Nat.le_succ_of_le watch.seen_le }
  else watch

/-- Another sender. -/
def cloneSender (watch : Watch Value) : Watch Value := { watch with senders := watch.senders + 1 }

/-- One sender less. -/
def dropSender (watch : Watch Value) : Watch Value := { watch with senders := watch.senders - 1 }

/-- No receiver any more. -/
def dropReceiver (watch : Watch Value) : Watch Value := { watch with receiver := false }

/-- The receiver has seen the value. -/
def look (watch : Watch Value) : Watch Value :=
  { watch with seen := watch.version, seen_le := Nat.le_refl _ }

/-- A value was sent which the receiver has not seen. -/
def Notified (watch : Watch Value) : Prop := watch.seen ≠ watch.version

instance (watch : Watch Value) : Decidable watch.Notified :=
  inferInstanceAs (Decidable (watch.seen ≠ watch.version))

/-- Poll the receiver: a change is looked at before the end of the channel. -/
def poll (watch : Watch Value) : Changed × Watch Value :=
  if watch.Notified then (.changed, watch.look)
  else if watch.senders = 0 then (.closed, watch)
  else (.pending, watch)

section Fields

variable (watch : Watch Value) (value : Value)

@[simp] theorem look_value : watch.look.value = watch.value := rfl

@[simp] theorem send_senders : (watch.send value).senders = watch.senders := by
  unfold send
  split <;> rfl

@[simp] theorem send_receiver : (watch.send value).receiver = watch.receiver := by
  unfold send
  split <;> rfl

@[simp] theorem notified_channel : ¬(channel value).Notified := fun changed => changed rfl

@[simp] theorem notified_cloneSender : watch.cloneSender.Notified ↔ watch.Notified := Iff.rfl

@[simp] theorem notified_dropSender : watch.dropSender.Notified ↔ watch.Notified := Iff.rfl

@[simp] theorem notified_dropReceiver : watch.dropReceiver.Notified ↔ watch.Notified := Iff.rfl

@[simp] theorem notified_look : ¬watch.look.Notified := fun changed => changed rfl

end Fields

variable {watch : Watch Value}

theorem send_of_receiver (value : Value) (receiver : watch.receiver = true) :
    (watch.send value).value = value ∧ (watch.send value).Notified := by
  rw [send, if_pos receiver]
  exact ⟨rfl, Nat.ne_of_lt (Nat.lt_succ_of_le watch.seen_le)⟩

theorem send_of_none (value : Value) (alone : watch.receiver = false) :
    watch.send value = watch := by
  rw [send, if_neg (by rw [alone]; exact Bool.false_ne_true)]

/-- What a poll makes of the channel is what the receiver learns of it. -/
theorem poll_cases (watch : Watch Value) :
    (watch.Notified ∧ watch.poll = (.changed, watch.look)) ∨
      (¬watch.Notified ∧ watch.senders = 0 ∧ watch.poll = (.closed, watch)) ∨
      (¬watch.Notified ∧ watch.senders ≠ 0 ∧ watch.poll = (.pending, watch)) := by
  unfold poll
  split_ifs with notified closed
  · exact .inl ⟨notified, rfl⟩
  · exact .inr (.inl ⟨notified, closed, rfl⟩)
  · exact .inr (.inr ⟨notified, closed, rfl⟩)

end Watch
