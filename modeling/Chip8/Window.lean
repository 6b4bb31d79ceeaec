/-
  Windows and the screens they are opened on.

  * a `Screen` opens the window of a width and a height, and says what a window
    shows once a frame is brought to it;
  * `Screen.Shows` is what a session relies on: up to some length of a side a window
    is opened as it was asked for, and it shows a frame of its own size as it is;
  * `Screen.standard` takes sides as 32 bits with a sign, so that scales apart by
    `2 ^ 27` open the same window, and covers the whole screen if both come out as 0;
    its windows have sides up to 16384 (`standard_shows`).
-/
import Chip8.Render

namespace Chip8

/-- The causes for which nothing is shown. -/
inductive WindowFault where
  /-- sides that do not fit 64 bits -/
  | sizeRange
  /-- a window of negative size -/
  | negativeSize
  /-- a window with a longer side than any has -/
  | tooLarge
  /-- a frame of another size than the window's -/
  | frameSize
deriving DecidableEq, Repr

/-- The text of a cause. -/
def WindowFault.message : WindowFault → String
  | sizeRange => "size must be two numbers"
  | negativeSize => "Cannot set negative sized display mode"
  | tooLarge => "Window is too large."
  | frameSize => "array must match surface dimensions"

/-- Whether the cause keeps the window from being opened. -/
def WindowFault.isOpening (f : WindowFault) : Bool := f ≠ frameSize

/-- An open window. -/
structure Window where
  height : Nat
  width : Nat
deriving DecidableEq, Repr

/-- The window in one colour. -/
def Window.fill (w : Window) (c : Colour) : Frame := .fill w.height w.width c

/-- What windows are opened on. -/
structure Screen where
  /-- the window of a width and a height -/
  window? (width height : Int) : Except WindowFault Window
  /-- what a window shows of a frame -/
  show? (w : Window) (f : Frame) : Except WindowFault Frame

/-- A screen that opens every window with sides up to a length, and shows in a window
    the frames of its size. -/
structure Screen.Shows (screen : Screen) (side : Nat) : Prop where
  window? : ∀ w : Window, 0 < w.width → 0 < w.height → w.width ≤ side → w.height ≤ side →
    screen.window? w.width w.height = .ok w
  show? : ∀ (w : Window) (f : Frame), f.height = w.height → f.width = w.width →
    screen.show? w f = .ok f

/-! ## The standard screen -/

namespace Window

/-- The window that covers the screen. -/
def fullScreen : Window := ⟨768, 1024⟩

/-- The length of the longest side. -/
def maxSide : Int := 16384

/-- A length as the screen takes it, with 32 bits and a sign. -/
def side (length : Int) : Int := Int.bmod length 4294967296

/-- The window of a width and a height as the screen takes them. -/
def ofSides (width height : Int) : Except WindowFault Window :=
  if width < 0 ∨ height < 0 then .error .negativeSize
  else if width = 0 ∧ height = 0 then .ok fullScreen
  else if maxSide < width ∨ maxSide < height then .error .tooLarge
  else .ok ⟨height.toNat, width.toNat⟩

theorem side_of_le {length : Nat} (h : length ≤ 16384) : side length = length :=
  Int.bmod_eq_of_le (by omega) (by omega)

theorem ofSides_of_le {w : Window} (hw : 0 < w.width) (hwidth : w.width ≤ 16384)
    (hheight : w.height ≤ 16384) : ofSides w.width w.height = .ok w := by
  have hsize : ¬ ((w.width : Int) < 0 ∨ (w.height : Int) < 0) := by omega
  have hzero : ¬ ((w.width : Int) = 0 ∧ (w.height : Int) = 0) := by omega
  have hmax : ¬ (maxSide < (w.width : Int) ∨ maxSide < (w.height : Int)) := by
    simp only [maxSide]
    omega
  simp only [ofSides, hsize, hzero, hmax, if_false, Int.toNat_natCast]

end Window

namespace Screen

/-- A screen whose windows have sides up to 16384. -/
def standard : Screen where
  window? width height :=
    if isLength width && isLength height then
      Window.ofSides (Window.side width) (Window.side height)
    else .error .sizeRange
  show? w f := if f.height = w.height ∧ f.width = w.width then .ok f else .error .frameSize

theorem standard_shows : standard.Shows 16384 where
  window? w hw _ hwidth hheight := by
    have hlength : ∀ n : Nat, n ≤ 16384 → isLength n = true := by
      intro n hn
      exact decide_eq_true (by simp only [sizeLimit]; omega)
    simp only [standard, hlength _ hwidth, hlength _ hheight, Bool.and_self, if_true,
      Window.side_of_le hwidth, Window.side_of_le hheight, Window.ofSides_of_le hw hwidth hheight]
  show? w f hheight hwidth := if_pos ⟨hheight, hwidth⟩

end Screen

end Chip8
