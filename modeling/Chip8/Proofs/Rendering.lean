/-
  The frame of a picture and two colours.

  * `Colour.outside?` is the first component of a colour that is no byte; without one
    the components are those of a colour (`ofInts_of_none`);
  * `Frame.Shows` is what a frame has to be: of each pixel a square block in one of the
    two colours, and nothing else;
  * `Shows.lit_iff`: in two different colours the frame gives the picture back;
  * `rendered_in_blocks`: which pictures, colours and scales have such a frame, and
    what the others are refused for;
  * `refused_beyond_words`: beyond 64 bits a scale has no frame, and a component is
    refused without its name.
-/
import Chip8.Render

namespace Chip8

/-! ## Colours -/

/-- Whether a number is a byte. -/
def IsByte (v : Int) : Prop := 0 ≤ v ∧ v ≤ 255

instance (v : Int) : Decidable (IsByte v) := inferInstanceAs (Decidable (_ ∧ _))

namespace Colour

/-- The components of a colour as integers. -/
def components (c : Colour) : Int × Int × Int := (c.red.toNat, c.green.toNat, c.blue.toNat)

/-- The first of three components that is no byte. -/
def outside? (c : Int × Int × Int) : Option Int :=
  [c.1, c.2.1, c.2.2].find? fun v => ¬ IsByte v

theorem componentOfInt_of_isByte {v : Int} (h : IsByte v) :
    ∃ b, componentOfInt v = .ok b ∧ (b.toNat : Int) = v := by
  refine ⟨_, if_pos h, ?_⟩
  obtain ⟨h0, h1⟩ := h
  rw [UInt8.toNat_ofNat']
  omega

theorem componentOfInt_of_not_isByte {v : Int} (h : ¬ IsByte v) :
    componentOfInt v = .error (.component v) :=
  if_neg h

variable {c : Int × Int × Int}

theorem ofInts_of_none (h : outside? c = none) :
    ∃ col, ofInts c.1 c.2.1 c.2.2 = .ok col ∧ col.components = c := by
  obtain ⟨red, green, blue⟩ := c
  simp only [outside?, List.find?_eq_none, decide_eq_true_eq, Decidable.not_not,
    List.forall_mem_cons] at h
  obtain ⟨r, hr, rfl⟩ := componentOfInt_of_isByte h.1
  obtain ⟨g, hg, rfl⟩ := componentOfInt_of_isByte h.2.1
  obtain ⟨b, hb, rfl⟩ := componentOfInt_of_isByte h.2.2.1
  refine ⟨⟨r, g, b⟩, ?_, rfl⟩
  rw [ofInts, hr, hg, hb]
  rfl

/-- The components are looked at in order. -/
theorem ofInts_of_some {v : Int} (h : outside? c = some v) :
    ofInts c.1 c.2.1 c.2.2 = .error (.component v) := by
  obtain ⟨red, green, blue⟩ := c
  unfold outside? at h
  by_cases hred : IsByte red
  · obtain ⟨r, hr, -⟩ := componentOfInt_of_isByte hred
    rw [List.find?_cons_of_neg (by simpa using hred)] at h
    by_cases hgreen : IsByte green
    · obtain ⟨g, hg, -⟩ := componentOfInt_of_isByte hgreen
      rw [List.find?_cons_of_neg (by simpa using hgreen)] at h
      by_cases hblue : IsByte blue
      · rw [List.find?_cons_of_neg (by simpa using hblue)] at h
        cases h
      · rw [List.find?_cons_of_pos (by simpa using hblue)] at h
        cases h
        rw [ofInts, hr, hg, componentOfInt_of_not_isByte hblue]
        rfl
    · rw [List.find?_cons_of_pos (by simpa using hgreen)] at h
      cases h
      rw [ofInts, hr, componentOfInt_of_not_isByte hgreen]
      rfl
  · rw [List.find?_cons_of_pos (by simpa using hred)] at h
    cases h
    rw [ofInts, componentOfInt_of_not_isByte hred]
    rfl

end Colour

namespace Frame

/-! ## Frames that show a picture -/

/-- A frame that shows a grid of 64 columns with 32 cells each: every cell is a block
    of some side, in one colour if it is lit and in another if it is dark. -/
structure Shows (f : Frame) (g : BitGrid) (side : Nat) (lit dark : Int × Int × Int) : Prop where
  height : f.height = 32 * side
  width : f.width = 64 * side
  pixel : ∀ r c, (f.pixel? r c).map Colour.components =
    if r < 32 * side ∧ c < 64 * side then
      some (if g.cell (32 * (c / side) + r / side) then lit else dark)
    else none

variable {room : Nat} {g : BitGrid} {scale : Int} {lit dark : Int × Int × Int}

/-- In two different colours the first pixels of the blocks give the picture back. -/
theorem Shows.lit_iff {f : Frame} {side : Nat} (h : f.Shows g side lit dark) (hside : 0 < side)
    (hne : lit ≠ dark) {x y : Nat} (hx : x < 64) (hy : y < 32) :
    (f.pixel? (y * side) (x * side)).map Colour.components = some lit ↔
      g.cell (32 * x + y) = true := by
  have hin : y * side < 32 * side ∧ x * side < 64 * side :=
    ⟨Nat.mul_lt_mul_of_pos_right hy hside, Nat.mul_lt_mul_of_pos_right hx hside⟩
  rw [h.pixel, if_pos hin, Nat.mul_div_cancel y hside, Nat.mul_div_cancel x hside]
  cases g.cell (32 * x + y) with
  | true => simp
  | false => simp [hne.symm]

theorem shows_ofGrid {p : Palette} (hg : g.shape = [64, 32]) :
    (ofGrid g scale p).Shows g (blockSide scale) p.lit.components p.dark.components where
  height := ofGrid_height
  width := ofGrid_width
  pixel r c := by
    rw [pixel?_ofGrid hg]
    split
    · rw [Option.map_some, apply_ite Colour.components]
    · rfl

/-! ## Rendering -/

theorem render_of_shape_ne (h : g.shape ≠ [64, 32]) :
    render room g scale lit dark = .error (.displayShape g.shape) := by
  rw [render, checkPicture, if_neg h]
  rfl

theorem render_of_outside {v : Int} (h : g.shape = [64, 32])
    (hv : (Colour.outside? lit).or (Colour.outside? dark) = some v) :
    render room g scale lit dark = .error (.component v) := by
  rw [render, checkPicture, if_pos h]
  cases hlit : Colour.outside? lit with
  | some w =>
    rw [hlit] at hv
    cases hv
    show (Colour.ofInts _ _ _).bind _ = _
    rw [Colour.ofInts_of_some hlit]
    rfl
  | none =>
    rw [hlit] at hv
    obtain ⟨l, hl, -⟩ := Colour.ofInts_of_none hlit
    show (Colour.ofInts _ _ _).bind (fun l => (Colour.ofInts _ _ _).bind _) = _
    rw [hl, Colour.ofInts_of_some hv]
    rfl

theorem render_of_bytes (room : Nat) (scale : Int) (h : g.shape = [64, 32])
    (hv : (Colour.outside? lit).or (Colour.outside? dark) = none) :
    ∃ p, render room g scale lit dark = paint room g scale p ∧
      p.lit.components = lit ∧ p.dark.components = dark := by
  obtain ⟨hlit, hdark⟩ := Option.or_eq_none_iff.1 hv
  obtain ⟨l, hl, hlc⟩ := Colour.ofInts_of_none hlit
  obtain ⟨k, hk, hkc⟩ := Colour.ofInts_of_none hdark
  refine ⟨⟨l, k⟩, ?_, hlc, hkc⟩
  rw [render, checkPicture, if_pos h, hl, hk]
  rfl

theorem checkFrame_ne_component (dimensions : List Int) (v : Int) :
    checkFrame room dimensions ≠ .error (.component v) := by
  unfold checkFrame
  split <;> exact nofun

theorem checkScale_ne_component (scale v : Int) :
    checkScale room scale ≠ .error (.component v) := by
  unfold checkScale
  split
  · exact nofun
  split
  · exact nofun
  · intro h
    dsimp only at h
    rcases hrows : checkFrame room [Int.bmod (32 * scale) (2 * sizeLimit), 64, 3] with f | ⟨⟩
    · rw [hrows] at h
      cases h
      exact checkFrame_ne_component _ v hrows
    · rw [hrows] at h
      exact checkFrame_ne_component _ v h

theorem paint_eq_error_iff {p : Palette} {e : RenderFault} :
    paint room g scale p = .error e ↔ checkScale room scale = .error e := by
  unfold paint
  cases checkScale room scale with
  | error f =>
    exact ⟨fun h => congrArg _ (Except.error.inj h), fun h => congrArg _ (Except.error.inj h)⟩
  | ok u => exact ⟨nofun, nofun⟩

/-- A component is refused iff it is the first that is no byte, whatever the picture and
    the scale are. -/
theorem render_eq_component_iff {v : Int} :
    render room g scale lit dark = .error (.component v) ↔
      g.shape = [64, 32] ∧ (Colour.outside? lit).or (Colour.outside? dark) = some v := by
  constructor
  · intro h
    by_cases hg : g.shape = [64, 32]
    · refine ⟨hg, ?_⟩
      cases hv : (Colour.outside? lit).or (Colour.outside? dark) with
      | some w =>
        rw [render_of_outside hg hv] at h
        cases h
        rfl
      | none =>
        obtain ⟨p, hrender, -⟩ := render_of_bytes room scale hg hv
        rw [hrender, paint_eq_error_iff] at h
        exact absurd h (checkScale_ne_component scale v)
    · rw [render_of_shape_ne hg] at h
      cases h
  · rintro ⟨hg, hv⟩
    exact render_of_outside hg hv

/-- **A picture is rendered in blocks.**  The frame of a picture of 64 columns with 32 cells
    each has a block in one of the two colours for every cell, if there is room for it, and
    gives the picture back if the colours differ.  A picture of another shape is refused, and
    otherwise the first component that is no byte; the colour for lit cells comes first, and
    it does not matter whether any cell has the colour.  A component that fits 64 bits is
    named.  A scale that does not is refused when all else is in order. -/
theorem rendered_in_blocks (room : Nat) (g : BitGrid) (scale : Int) (lit dark : Int × Int × Int) :
    let side := (max scale 1).toNat
    let outside := (Colour.outside? lit).or (Colour.outside? dark)
    (g.shape ≠ [64, 32] → render room g scale lit dark = .error (.displayShape g.shape)) ∧
    (∀ v, render room g scale lit dark = .error (.component v) ↔
      g.shape = [64, 32] ∧ outside = some v) ∧
    (∀ v, (RenderFault.component v).message =
      if isLength v then "Python integer " ++ Text.int v ++ " out of bounds for uint8"
      else "Python int too large to convert to C long") ∧
    (g.shape = [64, 32] → outside = none →
      (HasRoom room scale → ∃ f, render room g scale lit dark = .ok f ∧ f.Shows g side lit dark ∧
        (lit ≠ dark → ∀ x < 64, ∀ y < 32,
          ((f.pixel? (y * side) (x * side)).map Colour.components = some lit ↔
            g.cell (32 * x + y) = true))) ∧
      ((sizeLimit : Int) ≤ scale → render room g scale lit dark = .error .scaleRange)) := by
  intro side outside
  refine ⟨render_of_shape_ne, fun v => render_eq_component_iff, fun v => rfl, ?_⟩
  intro hg hbytes
  obtain ⟨p, hrender, rfl, rfl⟩ := render_of_bytes room scale hg hbytes
  constructor
  · intro hroom
    have hshows : (ofGrid g scale p).Shows g side p.lit.components p.dark.components :=
      shows_ofGrid hg
    exact ⟨_, hrender.trans (paint_of_hasRoom hroom), hshows,
      fun hne x hx y hy => hshows.lit_iff (blockSide_pos scale) hne hx hy⟩
  · intro hlimit
    have h1 : ¬ scale ≤ 1 := by
      unfold sizeLimit at hlimit
      omega
    have h2 : sizeLimit ≤ scale.toNat := by omega
    rw [hrender, paint_eq_error_iff, checkScale, if_neg h1, if_pos h2]

/-- One lit cell in the second column and the third row, in blocks of three by three and in
    as many bytes as these take. -/
theorem spot_rendered : ∃ f, render 55296 ⟨[64, 32], (Array.replicate 34 false).push true⟩ 3
      (255, 176, 0) (0, 0, 64) = .ok f ∧ f.height = 96 ∧ f.width = 192 ∧
    (f.pixel? 8 5).map Colour.components = some (255, 176, 0) ∧
    (f.pixel? 5 8).map Colour.components = some (0, 0, 64) ∧
    ((f.pixel? (2 * 3) (1 * 3)).map Colour.components = some (255, 176, 0) ↔
      (⟨[64, 32], (Array.replicate 34 false).push true⟩ : BitGrid).cell (32 * 1 + 2) = true) ∧
    render 0 ⟨[32, 64], #[]⟩ 3 (256, 0, 0) (0, 0, 0) = .error (.displayShape [32, 64]) ∧
    render 0 ⟨[64, 32], #[]⟩ 3 (0, 256, -1) (999, 0, 0) = .error (.component 256) ∧
    render 55296 ⟨[64, 32], #[]⟩ 9223372036854775808 (1, 2, 3) (0, 0, 0) =
      .error .scaleRange := by
  obtain ⟨-, -, -, hpicture⟩ := rendered_in_blocks 55296
    ⟨[64, 32], (Array.replicate 34 false).push true⟩ 3 (255, 176, 0) (0, 0, 64)
  obtain ⟨f, hf, hshows, hback⟩ := (hpicture rfl (by decide)).1 (by decide)
  obtain ⟨hshape, -⟩ := rendered_in_blocks 0 ⟨[32, 64], #[]⟩ 3 (256, 0, 0) (0, 0, 0)
  obtain ⟨-, hcomponent, -⟩ := rendered_in_blocks 0 ⟨[64, 32], #[]⟩ 3 (0, 256, -1) (999, 0, 0)
  obtain ⟨-, -, -, hlong⟩ :=
    rendered_in_blocks 55296 ⟨[64, 32], #[]⟩ 9223372036854775808 (1, 2, 3) (0, 0, 0)
  exact ⟨f, hf, hshows.height, hshows.width, (hshows.pixel 8 5).trans (by decide),
    (hshows.pixel 5 8).trans (by decide), hback (by decide) 1 (by decide) 2 (by decide),
    hshape (by decide), (hcomponent 256).2 (by decide), (hlong rfl (by decide)).2 (by decide)⟩

/-- At a scale of 64 bits there is no frame in any room, and a component of 64 bits is
    refused by a text that does not name it. -/
theorem refused_beyond_words :
    (¬ ∃ room : Nat, ∀ (g : BitGrid) (scale : Int) (lit dark : Int × Int × Int),
      g.shape = [64, 32] → (Colour.outside? lit).or (Colour.outside? dark) = none →
        ∃ f, render room g scale lit dark = .ok f) ∧
    ¬ ∀ (room : Nat) (g : BitGrid) (scale v : Int) (lit dark : Int × Int × Int),
      render room g scale lit dark = .error (.component v) →
        ∃ before after, (RenderFault.component v).message = before ++ Text.int v ++ after := by
  constructor
  · rintro ⟨room, h⟩
    obtain ⟨f, hf⟩ := h ⟨[64, 32], #[]⟩ 9223372036854775808 (255, 255, 255) (0, 0, 0) rfl
      (by decide)
    cases hf
  · intro h
    obtain ⟨before, after, hname⟩ := h 6144 ⟨[64, 32], #[]⟩ 1 9223372036854775808
      (9223372036854775808, 0, 0) (0, 0, 0) rfl
    have hdigit : '9' ∈ (before ++ Text.int 9223372036854775808 ++ after).toList := by
      have hnine : '9' ∈ (Text.int 9223372036854775808).toList := by decide +kernel
      simp [hnine]
    rw [← hname] at hdigit
    exact absurd hdigit (by decide +kernel)

end Frame

end Chip8
