import Mathlib.Logic.Function.Basic
import TiSIP.Lib.Switchboard

namespace Switchboard

variable {Slot Line : Type*}

/-- Each seated line has a plugged slot of its own, the hub is plugged and nobody's seat, and
    no other slot is plugged. -/
structure Seated (hub : Slot) (board : Switchboard Slot) (seat : Line → Option Slot) : Prop where
  hubPlugged : hub ∈ board.plugged
  star : board.Star hub
  plugged : ∀ line slot, seat line = some slot → slot ∈ board.plugged
  notHub : ∀ line slot, seat line = some slot → slot ≠ hub
  alone : ∀ first second slot, seat first = some slot → seat second = some slot → first = second
  used : ∀ slot, slot ∈ board.plugged → slot = hub ∨ ∃ line, seat line = some slot

section Seated

variable {hub : Slot} {board : Switchboard Slot} {seat : Line → Option Slot}

theorem Seated.connect {source sink : Slot} (seated : Seated hub board seat) (touches : source = hub ∨ sink = hub) :
    Seated hub (board.connect source sink) seat where
  hubPlugged := seated.hubPlugged
  star := star_connect seated.star touches
  plugged := seated.plugged
  notHub := seated.notHub
  alone := seated.alone
  used := seated.used

theorem Seated.disconnect {source sink : Slot} (seated : Seated hub board seat) :
    Seated hub (board.disconnect source sink) seat where
  hubPlugged := seated.hubPlugged
  star := star_of_fewer seated.star fun _ _ kept => kept.1
  plugged := seated.plugged
  notHub := seated.notHub
  alone := seated.alone
  used := seated.used

theorem Seated.ends {source sink : Slot} (seated : Seated hub board seat) (link : board.linked source sink) :
    (source = hub ∨ ∃ line, seat line = some source) ∧ (sink = hub ∨ ∃ line, seat line = some sink) := by
  obtain ⟨sourcePlugged, sinkPlugged⟩ := board.grounded _ _ link
  exact ⟨seated.used _ sourcePlugged, seated.used _ sinkPlugged⟩

theorem Seated.apart {first second : Line} {left right : Slot} (seated : Seated hub board seat)
    (firstSeat : seat first = some left) (secondSeat : seat second = some right) : ¬ board.linked left right :=
  seated.star.apart (seated.notHub _ _ firstSeat) (seated.notHub _ _ secondSeat)

variable [DecidableEq Line]

theorem update_eq_some {line other : Line} {given : Option Slot} {slot : Slot} :
    Function.update seat line given other = some slot ↔
      other = line ∧ given = some slot ∨ other ≠ line ∧ seat other = some slot := by
  by_cases same : other = line
  · subst same
    simp
  · simp [same]

theorem Seated.leave {line : Line} {slot : Slot} (seated : Seated hub board seat) (held : seat line = some slot) :
    Seated hub (board.unplug slot) (Function.update seat line none) where
  hubPlugged := ⟨seated.hubPlugged, fun same => seated.notHub _ _ held same.symm⟩
  star := star_of_fewer seated.star fun _ _ kept => kept.1
  plugged := by
    intro other slot' found
    rcases update_eq_some.mp found with ⟨_, impossible⟩ | ⟨different, old⟩
    · cases impossible
    · refine ⟨seated.plugged _ _ old, ?_⟩
      rintro rfl
      exact different (seated.alone _ _ _ old held)
  notHub := by
    intro other slot' found
    rcases update_eq_some.mp found with ⟨_, impossible⟩ | ⟨_, old⟩
    · cases impossible
    · exact seated.notHub _ _ old
  alone := by
    intro first second slot' firstFound secondFound
    rcases update_eq_some.mp firstFound with ⟨_, impossible⟩ | ⟨_, firstOld⟩
    · cases impossible
    · rcases update_eq_some.mp secondFound with ⟨_, impossible⟩ | ⟨_, secondOld⟩
      · cases impossible
      · exact seated.alone _ _ _ firstOld secondOld
  used := by
    intro other plugged
    rcases seated.used other plugged.1 with same | ⟨owner, owned⟩
    · exact .inl same
    · refine .inr ⟨owner, update_eq_some.mpr (.inr ⟨?_, owned⟩)⟩
      rintro rfl
      rw [held] at owned
      cases owned
      exact plugged.2 rfl

theorem Seated.take {line : Line} {slot : Slot} (seated : Seated hub board seat) (empty : seat line = none)
    (free : slot ∉ board.plugged) : Seated hub (board.plug slot) (Function.update seat line (some slot)) where
  hubPlugged := Set.mem_insert_of_mem _ seated.hubPlugged
  star := seated.star
  plugged := by
    intro other slot' found
    rcases update_eq_some.mp found with ⟨_, same⟩ | ⟨_, old⟩
    · cases same
      exact Set.mem_insert _ _
    · exact Set.mem_insert_of_mem _ (seated.plugged _ _ old)
  notHub := by
    intro other slot' found
    rcases update_eq_some.mp found with ⟨_, same⟩ | ⟨_, old⟩
    · cases same
      rintro rfl
      exact free seated.hubPlugged
    · exact seated.notHub _ _ old
  alone := by
    intro first second slot' firstFound secondFound
    rcases update_eq_some.mp firstFound with ⟨rfl, firstSame⟩ | ⟨_, firstOld⟩
    · cases firstSame
      rcases update_eq_some.mp secondFound with ⟨rfl, _⟩ | ⟨_, secondOld⟩
      · rfl
      · exact absurd (seated.plugged _ _ secondOld) free
    · rcases update_eq_some.mp secondFound with ⟨_, secondSame⟩ | ⟨_, secondOld⟩
      · cases secondSame
        exact absurd (seated.plugged _ _ firstOld) free
      · exact seated.alone _ _ _ firstOld secondOld
  used := by
    intro other plugged
    rcases Set.mem_insert_iff.mp plugged with rfl | old
    · exact .inr ⟨line, update_eq_some.mpr (.inl ⟨rfl, rfl⟩)⟩
    · rcases seated.used other old with same | ⟨owner, owned⟩
      · exact .inl same
      · refine .inr ⟨owner, update_eq_some.mpr (.inr ⟨?_, owned⟩)⟩
        rintro rfl
        rw [empty] at owned
        cases owned

end Seated

section Silent

variable {hub : Slot} {board : Switchboard Slot} {seat : Line → Option Slot}

def Silent (hub : Slot) (board : Switchboard Slot) (seat : Line → Option Slot) (line : Line) : Prop :=
  ∀ slot, seat line = some slot → ¬ board.linked hub slot

theorem Silent.connect {line : Line} {source sink : Slot} (silent : Silent hub board seat line)
    (elsewhere : source = hub → seat line ≠ some sink) : Silent hub (board.connect source sink) seat line := by
  intro slot found heard
  rcases heard with old | ⟨sourceHub, rfl, _⟩
  · exact silent slot found old
  · exact elsewhere sourceHub.symm found

theorem Silent.disconnect {line : Line} {source sink : Slot} (silent : Silent hub board seat line) :
    Silent hub (board.disconnect source sink) seat line :=
  fun slot found heard => silent slot found heard.1

end Silent

section Reseats

variable [DecidableEq Line]

inductive Reseats (group : Line → Prop) (board : Switchboard Slot) (seat : Line → Option Slot) :
    Switchboard Slot → (Line → Option Slot) → Prop
  | same : Reseats group board seat board seat
  | leave {before : Switchboard Slot} {held : Line → Option Slot} {line : Line} {slot : Slot} :
      Reseats group board seat before held → group line → held line = some slot →
        Reseats group board seat (before.unplug slot) (Function.update held line none)
  | take {before : Switchboard Slot} {held : Line → Option Slot} {line : Line} {slot : Slot} :
      Reseats group board seat before held → group line → held line = none → slot ∉ before.plugged →
        Reseats group board seat (before.plug slot) (Function.update held line (some slot))

variable {group : Line → Prop} {board after final : Switchboard Slot} {seat taken last : Line → Option Slot}

theorem Reseats.trans (first : Reseats group board seat after taken) (second : Reseats group after taken final last) :
    Reseats group board seat final last := by
  induction second with
  | same => exact first
  | leave _ member held previous => exact previous.leave member held
  | take _ member empty free previous => exact previous.take member empty free

variable {hub : Slot}

theorem Reseats.seated (moved : Reseats group board seat after taken) (seated : Seated hub board seat) :
    Seated hub after taken := by
  induction moved with
  | same => exact seated
  | leave _ _ held previous => exact previous.leave held
  | take _ _ empty free previous => exact previous.take empty free

theorem Reseats.other (moved : Reseats group board seat after taken) {line : Line} (outside : ¬ group line) :
    taken line = seat line := by
  induction moved with
  | same => rfl
  | leave _ member _ previous =>
    rw [Function.update_of_ne (by rintro rfl; exact outside member)]
    exact previous
  | take _ member _ _ previous =>
    rw [Function.update_of_ne (by rintro rfl; exact outside member)]
    exact previous

theorem Reseats.wired (moved : Reseats group board seat after taken) (seated : Seated hub board seat) {line : Line}
    {slot : Slot} (outside : ¬ group line) (held : seat line = some slot) (wired : board.Wired hub slot) :
    after.Wired hub slot := by
  induction moved with
  | same => exact wired
  | @leave before taken left slot' before_moved member leftHeld previous =>
    have beforeSeated := before_moved.seated seated
    have stillHeld : taken line = some slot := (before_moved.other outside).trans held
    refine wired_unplug previous ?_ fun same => beforeSeated.notHub _ _ leftHeld same.symm
    rintro rfl
    have same := beforeSeated.alone _ _ _ stillHeld leftHeld
    exact outside (same ▸ member)
  | take _ _ _ _ previous => exact wired_plug previous

theorem Reseats.silent (moved : Reseats group board seat after taken) {line : Line}
    (silent : Silent hub board seat line) : Silent hub after taken line := by
  induction moved with
  | same => exact silent
  | leave _ _ _ previous =>
    intro slot found heard
    rcases update_eq_some.mp found with ⟨_, impossible⟩ | ⟨_, old⟩
    · cases impossible
    · exact previous slot old heard.1
  | take _ _ _ free previous =>
    intro slot found heard
    rcases update_eq_some.mp found with ⟨_, same⟩ | ⟨_, old⟩
    · cases same
      exact (unlinked_of_unplugged free).2 heard
    · exact previous slot old heard

theorem Reseats.fewer (moved : Reseats group board seat after taken) {source sink : Slot}
    (link : after.linked source sink) : board.linked source sink := by
  induction moved with
  | same => exact link
  | leave _ _ _ previous => exact previous link.1
  | take _ _ _ _ previous => exact previous link

end Reseats

end Switchboard
