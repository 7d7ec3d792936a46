import Reckoner.Notes.Moment

/-!
# Moments compared

Two moments are compared by what their clocks showed if these keep the time of one zone, and by
their instants otherwise. So they are compared as instants unless a change of the clocks comes
between (`Moment.Aligned`), and always where clocks are never changed (`Moment.aligned_of_steady`).
-/

namespace Reckoner

/-- The clocks of a zone are never changed. -/
def Zone.Steady (zone : Zone) : Prop := zone.changes = []

instance (zone : Zone) : Decidable zone.Steady := inferInstanceAs (Decidable (_ = _))

namespace Moment

/-- One moment counts as no later than another. -/
def isNoLater (left right : Moment) : Bool := left.isSame right || left.isEarlier right

/-- Moments are compared as the numbers that stand for them. -/
structure ComparedBy (time : Moment → Int) (left right : Moment) : Prop where
  /-- They count as the same when the numbers are equal. -/
  same : left.isSame right = true ↔ time left = time right
  /-- The left one counts as earlier when its number is less. -/
  earlier : left.isEarlier right = true ↔ time left < time right

/-- What two clocks showed tells which of two instants is the later one. -/
structure Aligned (left right : Moment) : Prop where
  /-- In one zone the later instant is the one at which the clocks showed more. -/
  sameZone : left.dial.zone = right.dial.zone →
    (left.wall < right.wall ↔ left.instant < right.instant) ∧
      (right.wall < left.wall ↔ right.instant < left.instant)
  /-- In two zones no clock that shows one instant shows a time that it leaves out or shows
  twice. -/
  otherZone : left.dial.zone ≠ right.dial.zone → left.instant = right.instant →
    left.isDoubtful = false ∧ right.isDoubtful = false

section

variable {left right : Moment}

/-- Moments of one zone are compared by what the clocks showed. -/
theorem comparedBy_wall (one : left.dial.zone = right.dial.zone) : ComparedBy wall left right where
  same := by rw [isSame, if_pos one, beq_iff_eq]
  earlier := by rw [isEarlier, if_pos one, decide_eq_true_iff]

/-- Moments whose clocks tell the later instant are compared as instants. -/
theorem Aligned.comparedBy_instant (aligned : left.Aligned right) :
    ComparedBy instant left right := by
  by_cases one : left.dial.zone = right.dial.zone
  · obtain ⟨less, greater⟩ := aligned.sameZone one
    have walls := comparedBy_wall one
    constructor
    · rw [walls.same]
      omega
    · rw [walls.earlier, less]
  · constructor
    · rw [isSame, if_neg one, Bool.and_eq_true, Bool.and_eq_true, beq_iff_eq]
      refine ⟨fun found => found.1.1, fun equal => ?_⟩
      obtain ⟨clear, clearToo⟩ := aligned.otherZone one equal
      rw [clear, clearToo]
      exact ⟨⟨equal, rfl⟩, rfl⟩
    · rw [isEarlier, if_neg one, decide_eq_true_iff]

/-- A clock that is never changed is always as far ahead. -/
theorem aheadAt_of_steady {zone : Zone} (steady : zone.Steady) (wall : Int) (again : Bool) :
    zone.aheadAt wall again = zone.ahead := by
  rw [Zone.aheadAt, steady, Zone.aheadThrough]

/-- Clocks that are never changed tell the later instant. -/
theorem aligned_of_steady (steady : left.dial.zone.Steady) (steadyToo : right.dial.zone.Steady) :
    left.Aligned right := by
  have clear {moment : Moment} (steady : moment.dial.zone.Steady) : moment.isDoubtful = false := by
    rw [isDoubtful, offset, aheadAt_of_steady steady, aheadAt_of_steady steady]
    exact bne_self_eq_false _
  constructor
  · intro one
    have offsets : left.offset = right.offset := by
      rw [offset, offset, aheadAt_of_steady steady, aheadAt_of_steady steadyToo, one]
    rw [instant, instant, offsets]
    omega
  · exact fun _ _ => ⟨clear steady, clear steadyToo⟩

end

end Moment

end Reckoner
