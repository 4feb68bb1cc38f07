import GridRobot.Proofs.Drawing
import GridRobot.Proofs.Overflow
import GridRobot.Screen

/-! The popup of the help. It takes a share of the area that it is drawn over, but at least so many
columns and rows, and never more than there are; what is left over is halved. All of it is done in
words, and none of them overflows as long as the area itself ends at a word. So nothing is drawn
beside the area, whatever its size. -/
namespace GridRobot

namespace Rect

section Arithmetic

/- A share of a length, which is multiplied in words of twice the size. -/
def checkedShare (length percent : Nat) : Except Overflow Nat := do
  let product ← Overflow.hold UInt32.size (length * percent)
  Overflow.hold UInt16.size (product / 100)

def checkedShareWithin (least length percent : Nat) : Except Overflow Nat := do
  return min (max (← checkedShare length percent) least) length

def checkedMiddle (start length size : Nat) : Except Overflow Nat := do
  let spare ← Overflow.minus length size
  Overflow.hold UInt16.size (start + spare / 2)

def checkedCentred (widthPercent heightPercent : Nat) (area : Rect) :
    Except Overflow (Nat × Nat × Nat × Nat) := do
  let width ← checkedShareWithin leastWidth.toNat area.width.toNat widthPercent
  let height ← checkedShareWithin leastHeight.toNat area.height.toNat heightPercent
  let left ← checkedMiddle area.left area.width.toNat width
  let top ← checkedMiddle area.top area.height.toNat height
  return (left,top,width,height)

variable {start length size least percent : UInt16}

theorem shareBounded (part : percent.toNat ≤ 100) :
    length.toNat * percent.toNat / 100 ≤ length.toNat :=
  Nat.div_le_of_le_mul (Nat.mul_comm 100 _ ▸ Nat.mul_le_mul_left _ part)

theorem productBounded (part : percent.toNat ≤ 100) :
    length.toNat * percent.toNat < UInt32.size := by
  have bound := Nat.mul_le_mul (Nat.le_of_lt_succ length.toNat_lt) part
  exact bound.trans_lt (by decide)

theorem shareNat (part : percent.toNat ≤ 100) :
    (share length percent).toNat = length.toNat * percent.toNat / 100 := by
  have product : (length.toUInt32 * percent.toUInt32).toNat = length.toNat * percent.toNat := by
    rw [UInt32.toNat_mul,UInt16.toNat_toUInt32,UInt16.toNat_toUInt32]
    exact Nat.mod_eq_of_lt (productBounded part)
  rw [share,UInt32.toNat_toUInt16,UInt32.toNat_div,product]
  exact Nat.mod_eq_of_lt ((shareBounded part).trans_lt length.toNat_lt)

theorem checkedShareOk (part : percent.toNat ≤ 100) :
    checkedShare length.toNat percent.toNat = .ok (share length percent).toNat := by
  rw [checkedShare,Overflow.holdOk (productBounded part),shareNat part]
  exact Overflow.holdOk ((shareBounded part).trans_lt length.toNat_lt)

theorem shareWithinNat (part : percent.toNat ≤ 100) : (shareWithin least length percent).toNat =
    min (max (length.toNat * percent.toNat / 100) least.toNat) length.toNat := by
  rw [shareWithin,UInt16.toNat_min,UInt16.toNat_max,shareNat part]

theorem shareWithinBounded (part : percent.toNat ≤ 100) :
    (shareWithin least length percent).toNat ≤ length.toNat :=
  shareWithinNat part ▸ Nat.min_le_right _ _

theorem checkedShareWithinOk (part : percent.toNat ≤ 100) :
    checkedShareWithin least.toNat length.toNat percent.toNat =
      .ok (shareWithin least length percent).toNat := by
  rw [checkedShareWithin,checkedShareOk part,shareWithin,UInt16.toNat_min,UInt16.toNat_max]
  rfl

theorem middleNat (fits : start.toNat + length.toNat < UInt16.size)
    (short : size.toNat ≤ length.toNat) :
    (start + (length - size) / 2).toNat = start.toNat + (length.toNat - size.toNat) / 2 := by
  rw [UInt16.toNat_add,UInt16.toNat_div,
    UInt16.toNat_sub_of_le _ _ (UInt16.le_iff_toNat_le.mpr short)]
  have half : (length.toNat - size.toNat) / 2 ≤ length.toNat :=
    (Nat.div_le_self _ _).trans (Nat.sub_le _ _)
  exact Nat.mod_eq_of_lt ((Nat.add_le_add_left half _).trans_lt fits)

theorem checkedMiddleOk (fits : start.toNat + length.toNat < UInt16.size)
    (short : size.toNat ≤ length.toNat) : checkedMiddle start.toNat length.toNat size.toNat =
      .ok (start + (length - size) / 2).toNat := by
  have word := (start + (length - size) / 2).toNat_lt
  rw [checkedMiddle,Overflow.minusOk short]
  rw [middleNat fits short] at word ⊢
  exact Overflow.holdOk word

/- A stretch in the middle of another: what is over after it is what is over before it, or one
more. -/
structure Halves (start length place size : Nat) : Prop where
  begins : start ≤ place
  ends : place + size ≤ start + length
  margins : place - start ≤ start + length - (place + size) ∧
    start + length - (place + size) ≤ place - start + 1

theorem middleHalves (fits : start.toNat + length.toNat < UInt16.size)
    (short : size.toNat ≤ length.toNat) :
    Halves start.toNat length.toNat (start + (length - size) / 2).toNat size.toNat := by
  have place := middleNat fits short
  constructor <;> omega

end Arithmetic

structure Popup (area popup : Rect) (widthPercent heightPercent : Nat) : Prop where
  checked : checkedCentred widthPercent heightPercent area =
    .ok (popup.left,popup.top,popup.width.toNat,popup.height.toNat)
  within : popup.Within area
  width : popup.width.toNat = min area.width.toNat (max 40 (area.width.toNat * widthPercent / 100))
  height : popup.height.toNat =
    min area.height.toNat (max 12 (area.height.toNat * heightPercent / 100))
  across : Halves area.left area.width.toNat popup.left popup.width.toNat
  down : Halves area.top area.height.toNat popup.top popup.height.toNat

theorem centredPopup {area : Rect} (fits : area.Fits) {widthPercent heightPercent : UInt16}
    (wide : widthPercent.toNat ≤ 100) (high : heightPercent.toNat ≤ 100) :
    Popup area (centred widthPercent heightPercent area) widthPercent.toNat heightPercent.toNat := by
  have short : (shareWithin leastWidth area.width widthPercent).toNat ≤ area.width.toNat :=
    shareWithinBounded wide
  have low : (shareWithin leastHeight area.height heightPercent).toNat ≤ area.height.toNat :=
    shareWithinBounded high
  have across := middleHalves fits.right short
  have down := middleHalves fits.bottom low
  exact {
    checked := by
      simp only [checkedCentred,left,top,checkedShareWithinOk wide,checkedShareWithinOk high,bind,
        Except.bind,checkedMiddleOk fits.right short,checkedMiddleOk fits.bottom low]
      rfl
    within := ⟨across.begins,across.ends,down.begins,down.ends⟩
    width := by
      rw [Nat.min_comm,Nat.max_comm]
      exact shareWithinNat wide
    height := by
      rw [Nat.min_comm,Nat.max_comm]
      exact shareWithinNat high
    across
    down }

end Rect

namespace Screen
open Picture

theorem helpWithin {area : Rect} (fits : area.Fits) : (helpArea area).Within area :=
  (Rect.centredPopup fits (by decide) (by decide)).within

theorem helpOnly {area : Rect} (fits : area.Fits) (m : Mode) :
    ChangesOnly (helpArea area) (drawHelp area m) := by
  have within := helpWithin fits
  have popup : (helpArea area).Fits :=
    ⟨within.right.trans_lt fits.right,within.bottom.trans_lt fits.bottom⟩
  have cleared := (clearOnly (helpArea area)).andThen (tintOnly _ (.paper Palette.ground))
  have boxed := cleared.andThen (boxOnly popup (Palette.border true) " Help ")
  exact boxed.andThen ((linesOnly _ .leftmost _).inside fun _ _ => Rect.innerInside popup)

theorem helpInArea {area : Rect} (fits : area.Fits) (m : Mode) :
    ChangesOnly area (drawHelp area m) :=
  (helpOnly fits m).inside fun _ _ => Rect.containsWithin (helpWithin fits)

theorem frameFits (w h : UInt16) : Rect.Fits ⟨0,0,w,h⟩ :=
  ⟨(Nat.zero_add _).trans_lt w.toNat_lt,(Nat.zero_add _).trans_lt h.toNat_lt⟩

theorem helpInFrame (a : App) (w h : UInt16) {x y : Nat}
    (outside : Rect.contains ⟨0,0,w,h⟩ x y = false) :
    (a.draw w h).cell x y = ({ a with helpVisible := false }.draw w h).cell x y := by
  unfold App.draw
  dsimp only
  split
  · exact helpInArea (frameFits w h) a.mode _ x y outside
  · rfl

theorem helpAlwaysFits {area : Rect} (fits : area.Fits) {widthPercent heightPercent : UInt16}
    (wide : widthPercent.toNat ≤ 100) (high : heightPercent.toNat ≤ 100) :
    Rect.Popup area (.centred widthPercent heightPercent area) widthPercent.toNat
      heightPercent.toNat ∧
    (∀ m, ChangesOnly (helpArea area) (drawHelp area m)) ∧
    (∀ m, ChangesOnly area (drawHelp area m)) ∧
    ∀ a w h x y, Rect.contains ⟨0,0,w,h⟩ x y = false →
      (App.draw a w h).cell x y = (App.draw { a with helpVisible := false } w h).cell x y :=
  ⟨Rect.centredPopup fits wide high,helpOnly fits,helpInArea fits,fun a w h _ _ => helpInFrame a w h⟩

/- In the last corner that words can name: 39 columns and 10 rows would be the shares. -/
theorem cornerPopupFits : Rect.Fits ⟨65470,65505,65,13⟩ ∧
    Rect.centred 60 80 ⟨65470,65505,65,13⟩ = ⟨65482,65505,40,12⟩ ∧
    Rect.Popup ⟨65470,65505,65,13⟩ (.centred 60 80 ⟨65470,65505,65,13⟩) 60 80 :=
  ⟨⟨by decide,by decide⟩,by decide,
    (@helpAlwaysFits _ ⟨by decide,by decide⟩ 60 80 (by decide) (by decide)).1⟩

end Screen
end GridRobot
