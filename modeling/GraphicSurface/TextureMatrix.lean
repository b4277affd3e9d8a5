import GraphicSurface.SquareSymmetries
import GraphicSurface.Types

/-! `SurfaceUtils::ComputeTransformMatrix` and its second version: the 4 by 4 texture matrix of a
buffer, in the column-major order of its array. The numbers are of an arbitrary type, since the
functions use nothing of them but their operations. -/

namespace GraphicSurface

open SquareSymmetries

@[match_pattern] def graphicRotate90 : Int := 1
@[match_pattern] def graphicRotate180 : Int := 2
@[match_pattern] def graphicRotate270 : Int := 3
@[match_pattern] def graphicFlipH : Int := 4
@[match_pattern] def graphicFlipV : Int := 5
@[match_pattern] def graphicFlipHRot90 : Int := 6
@[match_pattern] def graphicFlipVRot90 : Int := 7
@[match_pattern] def graphicFlipHRot180 : Int := 8
@[match_pattern] def graphicFlipVRot180 : Int := 9
@[match_pattern] def graphicFlipHRot270 : Int := 10
@[match_pattern] def graphicFlipVRot270 : Int := 11

/-- `std::array<float, 16>`. -/
abbrev MatrixArray (R : Type*) := Fin 16 → R

namespace SurfaceUtils

section Operations

variable {R : Type*} [Zero R] [One R] [Neg R] [Add R] [Sub R] [Mul R] [Div R] [IntCast R] [LT R]
  [DecidableLT R]

def matrixProduct (l r : MatrixArray R) : MatrixArray R :=
  ![l 0 * r 0 + l 4 * r 1 + l 8 * r 2 + l 12 * r 3,
    l 1 * r 0 + l 5 * r 1 + l 9 * r 2 + l 13 * r 3,
    l 2 * r 0 + l 6 * r 1 + l 10 * r 2 + l 14 * r 3,
    l 3 * r 0 + l 7 * r 1 + l 11 * r 2 + l 15 * r 3,
    l 0 * r 4 + l 4 * r 5 + l 8 * r 6 + l 12 * r 7,
    l 1 * r 4 + l 5 * r 5 + l 9 * r 6 + l 13 * r 7,
    l 2 * r 4 + l 6 * r 5 + l 10 * r 6 + l 14 * r 7,
    l 3 * r 4 + l 7 * r 5 + l 11 * r 6 + l 15 * r 7,
    l 0 * r 8 + l 4 * r 9 + l 8 * r 10 + l 12 * r 11,
    l 1 * r 8 + l 5 * r 9 + l 9 * r 10 + l 13 * r 11,
    l 2 * r 8 + l 6 * r 9 + l 10 * r 10 + l 14 * r 11,
    l 3 * r 8 + l 7 * r 9 + l 11 * r 10 + l 15 * r 11,
    l 0 * r 12 + l 4 * r 13 + l 8 * r 14 + l 12 * r 15,
    l 1 * r 12 + l 5 * r 13 + l 9 * r 14 + l 13 * r 15,
    l 2 * r 12 + l 6 * r 13 + l 10 * r 14 + l 14 * r 15,
    l 3 * r 12 + l 7 * r 13 + l 11 * r 14 + l 15 * r 15]

def identityMatrix : MatrixArray R := ![1, 0, 0, 0, 0, 1, 0, 0, 0, 0, 1, 0, 0, 0, 0, 1]

/-- `ComputeTransformByMatrix` on `*transformMatrix = m`. -/
def computeTransformByMatrix (transform : Int) (m : MatrixArray R) : MatrixArray R :=
  let rotate90 : MatrixArray R := ![0, -1, 0, 0, 1, 0, 0, 0, 0, 0, 1, 0, 0, 0, 0, 1]
  let rotate180 : MatrixArray R := ![-1, 0, 0, 0, 0, -1, 0, 0, 0, 0, 1, 0, 0, 0, 0, 1]
  let rotate270 : MatrixArray R := ![0, 1, 0, 0, -1, 0, 0, 0, 0, 0, 1, 0, 0, 0, 0, 1]
  let flipH : MatrixArray R := ![-1, 0, 0, 0, 0, 1, 0, 0, 0, 0, 1, 0, 0, 0, 0, 1]
  let flipV : MatrixArray R := ![1, 0, 0, 0, 0, -1, 0, 0, 0, 0, 1, 0, 0, 0, 0, 1]
  match transform with
  | graphicRotate90 => matrixProduct m rotate90
  | graphicRotate180 => matrixProduct m rotate180
  | graphicRotate270 => matrixProduct m rotate270
  | graphicFlipH => matrixProduct m flipH
  | graphicFlipV => matrixProduct m flipV
  | graphicFlipHRot90 => matrixProduct flipH rotate90
  | graphicFlipVRot90 => matrixProduct flipV rotate90
  | graphicFlipHRot180 => matrixProduct flipH rotate180
  | graphicFlipVRot180 => matrixProduct flipV rotate180
  | graphicFlipHRot270 => matrixProduct flipH rotate270
  | graphicFlipVRot270 => matrixProduct flipV rotate270
  | _ => m

/-- `crop.w < bufferWidth && bufferWidth != 0`, and the same for the height. -/
def narrows (R : Type*) [IntCast R] [LT R] [DecidableLT R] (extent size : Int) : Bool :=
  decide ((extent : R) < (size : R)) && size != 0

/-- `matrix` is computed and `transform`, which is passed by reference, stays. -/
def computeTransformMatrix (width height transform : Int) (crop : Rect) : MatrixArray R × Int :=
  let transformMatrix := computeTransformByMatrix transform identityMatrix
  let tx : R := if narrows R crop.w width then (crop.x : R) / (width : R) else 0
  let sx : R := if narrows R crop.w width then (crop.w : R) / (width : R) else 1
  let ty : R :=
    if narrows R crop.h height then ((height : R) - (crop.y : R)) / (height : R) else 0
  let sy : R := if narrows R crop.h height then (crop.h : R) / (height : R) else 1
  let cropMatrix : MatrixArray R := ![sx, 0, 0, 0, 0, sy, 0, 0, 0, 0, 1, 0, tx, ty, 0, 1]
  (if narrows R crop.w width || narrows R crop.h height then matrixProduct cropMatrix transformMatrix
    else transformMatrix, transform)

def rotate90V2 : MatrixArray R := ![0, 1, 0, 0, -1, 0, 0, 0, 0, 0, 1, 0, 1, 0, 0, 1]
def rotate180V2 : MatrixArray R := ![-1, 0, 0, 0, 0, -1, 0, 0, 0, 0, 1, 0, 1, 1, 0, 1]
def rotate270V2 : MatrixArray R := ![0, -1, 0, 0, 1, 0, 0, 0, 0, 0, 1, 0, 0, 1, 0, 1]
def flipHV2 : MatrixArray R := ![-1, 0, 0, 0, 0, 1, 0, 0, 0, 0, 1, 0, 1, 0, 0, 1]
def flipVV2 : MatrixArray R := ![1, 0, 0, 0, 0, -1, 0, 0, 0, 0, 1, 0, 0, 1, 0, 1]

def computeTransformByMatrixV2 (transform : Int) (m : MatrixArray R) : MatrixArray R :=
  match transform with
  | graphicRotate90 => rotate90V2
  | graphicRotate180 => rotate180V2
  | graphicRotate270 => rotate270V2
  | graphicFlipH => flipHV2
  | graphicFlipV => flipVV2
  | graphicFlipHRot90 => matrixProduct flipVV2 rotate90V2
  | graphicFlipVRot90 => matrixProduct flipHV2 rotate90V2
  | graphicFlipHRot180 => flipVV2
  | graphicFlipVRot180 => flipHV2
  | graphicFlipHRot270 => matrixProduct flipHV2 rotate90V2
  | graphicFlipVRot270 => matrixProduct flipVV2 rotate90V2
  | _ => m

/-- The switch at the start of `ComputeTransformMatrixV2`, which writes to its argument. -/
def swapRotations (transform : Int) : Int :=
  match transform with
  | graphicRotate90 => graphicRotate270
  | graphicRotate270 => graphicRotate90
  | _ => transform

/-- The crop in `ComputeTransformMatrixV2`. -/
def cropMatrixV2 (width height : Int) (crop : Rect) : MatrixArray R :=
  let tx : R := if narrows R crop.w width then (crop.x : R) / (width : R) else 0
  let sx : R := if narrows R crop.w width then (crop.w : R) / (width : R) else 1
  let ty : R :=
    if narrows R crop.h height then ((height : R) - (crop.y : R) - (crop.h : R)) / (height : R)
    else 0
  let sy : R := if narrows R crop.h height then (crop.h : R) / (height : R) else 1
  ![sx, 0, 0, 0, 0, sy, 0, 0, 0, 0, 1, 0, tx, ty, 0, 1]

/-- The matrix, and what `transform`, which is passed by reference, is afterwards. -/
def computeTransformMatrixV2 (width height transform : Int) (crop : Rect) :
    MatrixArray R × Int :=
  let transform := swapRotations transform
  let transformMatrix := computeTransformByMatrixV2 transform identityMatrix
  let transformMatrix :=
    if narrows R crop.w width || narrows R crop.h height then
      matrixProduct (cropMatrixV2 width height crop) transformMatrix
    else transformMatrix
  (matrixProduct flipVV2 transformMatrix, transform)

end Operations

theorem swapRotations_eq_iff {transform : Int} : swapRotations transform = transform ↔
    transform ≠ graphicRotate90 ∧ transform ≠ graphicRotate270 := by
  unfold swapRotations
  split
  · simp [graphicRotate90, graphicRotate270]
  · simp [graphicRotate90, graphicRotate270]
  · rename_i h90 h270
    simp only [true_iff]
    exact ⟨h90, h270⟩

section Maps

variable {K : Type*} [CommRing K]

def mulPoint (m : MatrixArray K) (v : Fin 4 → K) : Fin 4 → K :=
  ![m 0 * v 0 + m 4 * v 1 + m 8 * v 2 + m 12 * v 3,
    m 1 * v 0 + m 5 * v 1 + m 9 * v 2 + m 13 * v 3,
    m 2 * v 0 + m 6 * v 1 + m 10 * v 2 + m 14 * v 3,
    m 3 * v 0 + m 7 * v 1 + m 11 * v 2 + m 15 * v 3]

def textureMap (m : MatrixArray K) (p : K × K) : K × K :=
  (mulPoint m ![p.1, p.2, 0, 1] 0, mulPoint m ![p.1, p.2, 0, 1] 1)

/-- The matrix is that of an affine map of the plane, and leaves the depth alone. -/
structure IsPlanar (m : MatrixArray K) : Prop where
  weight : m 3 = 0 ∧ m 7 = 0 ∧ m 11 = 0 ∧ m 15 = 1
  depth : m 2 = 0 ∧ m 6 = 0 ∧ m 10 = 1 ∧ m 14 = 0
  flat : m 8 = 0 ∧ m 9 = 0

theorem textureMap_apply (m : MatrixArray K) (p : K × K) :
    textureMap m p = (m 0 * p.1 + m 4 * p.2 + m 12, m 1 * p.1 + m 5 * p.2 + m 13) := by
  simp [textureMap, mulPoint]

theorem IsPlanar.mulPoint {m : MatrixArray K} (h : IsPlanar m) (p : K × K) :
    SurfaceUtils.mulPoint m ![p.1, p.2, 0, 1] = ![(textureMap m p).1, (textureMap m p).2, 0, 1] := by
  obtain ⟨⟨h3, h7, h11, h15⟩, ⟨h2, h6, h10, h14⟩, -⟩ := h
  ext i
  fin_cases i <;> simp [SurfaceUtils.mulPoint, textureMap, h3, h7, h11, h15, h2, h6, h10, h14]

theorem IsPlanar.product {l r : MatrixArray K} (hl : IsPlanar l) (hr : IsPlanar r) :
    IsPlanar (matrixProduct l r) := by
  obtain ⟨⟨l3, l7, l11, l15⟩, ⟨l2, l6, l10, l14⟩, l8, l9⟩ := hl
  obtain ⟨⟨r3, r7, r11, r15⟩, ⟨r2, r6, r10, r14⟩, r8, r9⟩ := hr
  refine ⟨?_, ?_, ?_⟩ <;>
    simp [matrixProduct, l3, l7, l11, l15, l2, l6, l10, l14, l8, l9, r3, r7, r11, r15, r2, r6, r10,
      r14, r8, r9]

theorem textureMap_product {l r : MatrixArray K} (hl : IsPlanar l) (hr : IsPlanar r) :
    textureMap (matrixProduct l r) = textureMap l ∘ textureMap r := by
  obtain ⟨-, -, l8, l9⟩ := hl
  obtain ⟨⟨r3, r7, -, r15⟩, ⟨r2, r6, -, r14⟩, -⟩ := hr
  funext p
  simp only [Function.comp_apply, textureMap_apply]
  ext <;> simp [matrixProduct, l8, l9, r3, r7, r15, r2, r6, r14] <;> ring

theorem IsPlanar.ext {m m' : MatrixArray K} (h : IsPlanar m) (h' : IsPlanar m')
    (hmap : textureMap m = textureMap m') : m = m' := by
  have horigin := congrFun hmap (0, 0)
  have hright := congrFun hmap (1, 0)
  have htop := congrFun hmap (0, 1)
  simp only [textureMap_apply, mul_zero, mul_one, zero_add, add_zero, Prod.mk.injEq]
    at horigin hright htop
  obtain ⟨⟨h3, h7, h11, h15⟩, ⟨h2, h6, h10, h14⟩, h8, h9⟩ := h
  obtain ⟨⟨h3', h7', h11', h15'⟩, ⟨h2', h6', h10', h14'⟩, h8', h9'⟩ := h'
  rw [horigin.1, horigin.2] at hright htop
  ext i
  fin_cases i <;> simp_all

/-- The symmetry of the square that a transform names. A flip with a rotation is the flip followed
by the rotation. -/
def symmetryOf (transform : Int) : DihedralGroup 4 :=
  match transform with
  | graphicRotate90 => .r 1
  | graphicRotate180 => .r 2
  | graphicRotate270 => .r 3
  | graphicFlipH => .sr 2
  | graphicFlipV => .sr 0
  | graphicFlipHRot90 => .r 1 * .sr 2
  | graphicFlipVRot90 => .r 1 * .sr 0
  | graphicFlipHRot180 => .r 2 * .sr 2
  | graphicFlipVRot180 => .r 2 * .sr 0
  | graphicFlipHRot270 => .r 3 * .sr 2
  | graphicFlipVRot270 => .r 3 * .sr 0
  | _ => 1

def transformMatrixV2 (transform : Int) : MatrixArray K :=
  computeTransformByMatrixV2 (swapRotations transform) identityMatrix

/-- The matrix is planar, and its map is the symmetry `g` of the square. -/
structure Realizes (m : MatrixArray K) (g : DihedralGroup 4) : Prop where
  planar : IsPlanar m
  map : textureMap m = action g

theorem Realizes.product {l r : MatrixArray K} {g h : DihedralGroup 4} (hl : Realizes l g)
    (hr : Realizes r h) : Realizes (matrixProduct l r) (g * h) where
  planar := hl.planar.product hr.planar
  map := by
    rw [textureMap_product hl.planar hr.planar, hl.map, hr.map, map_mul, Equiv.Perm.coe_mul]

theorem realizes_identity : Realizes (identityMatrix : MatrixArray K) 1 where
  planar := ⟨⟨rfl, rfl, rfl, rfl⟩, ⟨rfl, rfl, rfl, rfl⟩, rfl, rfl⟩
  map := by
    funext p
    simp [textureMap_apply, identityMatrix]

theorem realizes_rotate90V2 : Realizes (rotate90V2 : MatrixArray K) (.r 1) where
  planar := ⟨⟨rfl, rfl, rfl, rfl⟩, ⟨rfl, rfl, rfl, rfl⟩, rfl, rfl⟩
  map := by
    funext p
    rw [action_quarter, turn_apply, textureMap_apply]
    ext <;> simp [rotate90V2]
    ring

theorem realizes_rotate180V2 : Realizes (rotate180V2 : MatrixArray K) (.r 2) where
  planar := ⟨⟨rfl, rfl, rfl, rfl⟩, ⟨rfl, rfl, rfl, rfl⟩, rfl, rfl⟩
  map := by
    funext p
    rw [action_half, turn_sq_apply, textureMap_apply]
    ext <;> simp [rotate180V2] <;> ring

theorem realizes_rotate270V2 : Realizes (rotate270V2 : MatrixArray K) (.r 3) where
  planar := ⟨⟨rfl, rfl, rfl, rfl⟩, ⟨rfl, rfl, rfl, rfl⟩, rfl, rfl⟩
  map := by
    funext p
    rw [action_threeQuarters, turn_pow_three, turn_inv_apply, textureMap_apply]
    ext <;> simp [rotate270V2]
    ring

theorem realizes_flipHV2 : Realizes (flipHV2 : MatrixArray K) (.sr 2) where
  planar := ⟨⟨rfl, rfl, rfl, rfl⟩, ⟨rfl, rfl, rfl, rfl⟩, rfl, rfl⟩
  map := by
    funext p
    rw [action_flipH, flipH_apply, textureMap_apply]
    ext <;> simp [flipHV2]
    ring

theorem realizes_flipVV2 : Realizes (flipVV2 : MatrixArray K) (.sr 0) where
  planar := ⟨⟨rfl, rfl, rfl, rfl⟩, ⟨rfl, rfl, rfl, rfl⟩, rfl, rfl⟩
  map := by
    funext p
    rw [action_flipV, flipV_apply, textureMap_apply]
    ext <;> simp [flipVV2]
    ring

theorem realizes_transformMatrixV2 {transform : Int} (hfrom : 0 ≤ transform)
    (hto : transform < 12) :
    Realizes (transformMatrixV2 transform : MatrixArray K) (symmetryOf transform)⁻¹ := by
  interval_cases transform
  case «0» => exact realizes_identity
  case «1» => exact realizes_rotate270V2
  case «2» => exact realizes_rotate180V2
  case «3» => exact realizes_rotate90V2
  case «4» => exact realizes_flipHV2
  case «5» => exact realizes_flipVV2
  case «6» => exact realizes_flipVV2.product realizes_rotate90V2
  case «7» => exact realizes_flipHV2.product realizes_rotate90V2
  case «8» => exact realizes_flipVV2
  case «9» => exact realizes_flipHV2
  case «10» => exact realizes_flipHV2.product realizes_rotate90V2
  case «11» => exact realizes_flipVV2.product realizes_rotate90V2

theorem exists_transform (g : DihedralGroup 4) :
    ∃ transform, 0 ≤ transform ∧ transform < 12 ∧ symmetryOf transform = g := by
  cases g with
  | r i =>
    fin_cases i
    · exact ⟨0, by decide, by decide, rfl⟩
    · exact ⟨1, by decide, by decide, rfl⟩
    · exact ⟨2, by decide, by decide, rfl⟩
    · exact ⟨3, by decide, by decide, rfl⟩
  | sr i =>
    fin_cases i
    · exact ⟨5, by decide, by decide, rfl⟩
    · exact ⟨6, by decide, by decide, rfl⟩
    · exact ⟨4, by decide, by decide, rfl⟩
    · exact ⟨7, by decide, by decide, rfl⟩

theorem Realizes.unique {m m' : MatrixArray K} {g : DihedralGroup 4} (h : Realizes m g)
    (h' : Realizes m' g) : m = m' :=
  h.planar.ext h'.planar (h.map.trans h'.map.symm)

theorem transformMatrixV2_product {t u v : Int} (ht : 0 ≤ t ∧ t < 12) (hu : 0 ≤ u ∧ u < 12)
    (hv : 0 ≤ v ∧ v < 12) (hsymmetry : symmetryOf v = symmetryOf u * symmetryOf t) :
    matrixProduct (transformMatrixV2 t) (transformMatrixV2 u) =
      (transformMatrixV2 v : MatrixArray K) := by
  have hproduct := (realizes_transformMatrixV2 (K := K) ht.1 ht.2).product
    (realizes_transformMatrixV2 hu.1 hu.2)
  rw [← mul_inv_rev, ← hsymmetry] at hproduct
  exact hproduct.unique (realizes_transformMatrixV2 hv.1 hv.2)

end Maps

/-- The rectangle has a positive size and lies in a buffer of this size. -/
structure Crops (crop : Rect) (width height : Int) : Prop where
  left : 0 ≤ crop.x
  top : 0 ≤ crop.y
  wide : 0 < crop.w
  high : 0 < crop.h
  right : crop.x + crop.w ≤ width
  bottom : crop.y + crop.h ≤ height

def cropMap (width height : Int) (crop : Rect) (p : ℚ × ℚ) : ℚ × ℚ :=
  (crop.w / width * p.1 + crop.x / width,
    crop.h / height * p.2 + (height - crop.y - crop.h) / height)

def cropRegion (width height : Int) (crop : Rect) : Set (ℚ × ℚ) :=
  Set.Icc (crop.x / width : ℚ) ((crop.x + crop.w) / width) ×ˢ
    Set.Icc (crop.y / height : ℚ) ((crop.y + crop.h) / height)

theorem narrows_eq {extent size : Int} (hextent : 0 < extent) :
    narrows ℚ extent size = decide (extent < size) := by
  by_cases hlt : extent < size
  · have hsize : size ≠ 0 := by omega
    simp [narrows, hlt, hsize]
  · simp [narrows, hlt]

theorem scale_eq {offset extent size : Int} (hoffset : 0 ≤ offset) (hextent : 0 < extent)
    (hfits : offset + extent ≤ size) :
    (if narrows ℚ extent size then (extent / size : ℚ) else 1) = extent / size ∧
      (if narrows ℚ extent size then (offset / size : ℚ) else 0) = offset / size ∧
      (if narrows ℚ extent size then ((size - offset - extent) / size : ℚ) else 0) =
        (size - offset - extent) / size := by
  rw [narrows_eq hextent]
  by_cases hlt : extent < size
  · simp [hlt]
  · have hextent' : extent = size := by omega
    have hoffset' : offset = 0 := by omega
    have hsize : (size : ℚ) ≠ 0 := by
      rw [Int.cast_ne_zero]
      omega
    subst hextent' hoffset'
    simp [hsize]

variable {width height transform : Int} {crop : Rect}

theorem cropMatrixV2_planar (width height : Int) (crop : Rect) :
    IsPlanar (cropMatrixV2 width height crop : MatrixArray ℚ) :=
  ⟨⟨rfl, rfl, rfl, rfl⟩, ⟨rfl, rfl, rfl, rfl⟩, rfl, rfl⟩

theorem cropMatrixV2_map (hcrop : Crops crop width height) :
    textureMap (cropMatrixV2 width height crop) = cropMap width height crop := by
  obtain ⟨hscaleX, hoffsetX, -⟩ := scale_eq hcrop.left hcrop.wide hcrop.right
  obtain ⟨hscaleY, -, hoffsetY⟩ := scale_eq hcrop.top hcrop.high hcrop.bottom
  funext p
  rw [textureMap_apply, cropMap, ← hscaleX, ← hoffsetX, ← hscaleY, ← hoffsetY]
  ext <;> simp [cropMatrixV2]

theorem cropMap_of_whole (hcrop : Crops crop width height)
    (hwhole : (narrows ℚ crop.w width || narrows ℚ crop.h height) = false) :
    cropMap width height crop = id := by
  obtain ⟨hleft, htop, hwide, hhigh, hright, hbottom⟩ := hcrop
  rw [narrows_eq hwide, narrows_eq hhigh, Bool.or_eq_false_iff, decide_eq_false_iff_not,
    decide_eq_false_iff_not] at hwhole
  have hw : crop.w = width := by omega
  have hh : crop.h = height := by omega
  have hx : crop.x = 0 := by omega
  have hy : crop.y = 0 := by omega
  have hwidth : (width : ℚ) ≠ 0 := by
    rw [Int.cast_ne_zero]
    omega
  have hheight : (height : ℚ) ≠ 0 := by
    rw [Int.cast_ne_zero]
    omega
  funext p
  simp [cropMap, hw, hh, hx, hy, hwidth, hheight]

theorem computeTransformMatrixV2_map (hcrop : Crops crop width height) (hfrom : 0 ≤ transform)
    (hto : transform < 12) :
    IsPlanar (computeTransformMatrixV2 width height transform crop : MatrixArray ℚ × Int).1 ∧
      textureMap (computeTransformMatrixV2 width height transform crop : MatrixArray ℚ × Int).1 =
        flipV ∘ cropMap width height crop ∘ action (symmetryOf transform)⁻¹ := by
  have hflip : Realizes (flipVV2 : MatrixArray ℚ) (.sr 0) := realizes_flipVV2
  have hplanar := cropMatrixV2_planar width height crop
  have htransform : Realizes
      (computeTransformByMatrixV2 (swapRotations transform) identityMatrix : MatrixArray ℚ)
      (symmetryOf transform)⁻¹ := realizes_transformMatrixV2 hfrom hto
  unfold computeTransformMatrixV2
  dsimp only
  cases hwhole : narrows ℚ crop.w width || narrows ℚ crop.h height with
  | true =>
    simp only [if_true]
    have hcropped := hplanar.product htransform.planar
    refine ⟨hflip.planar.product hcropped, ?_⟩
    rw [textureMap_product hflip.planar hcropped, textureMap_product hplanar htransform.planar,
      hflip.map, htransform.map, cropMatrixV2_map hcrop, action_flipV]
  | false =>
    simp only [Bool.false_eq_true, if_false]
    refine ⟨hflip.planar.product htransform.planar, ?_⟩
    rw [textureMap_product hflip.planar htransform.planar, hflip.map, htransform.map,
      cropMap_of_whole hcrop hwhole, action_flipV, Function.id_comp]

theorem flipV_cropMap_bijOn (hcrop : Crops crop width height) :
    Set.BijOn (flipV ∘ cropMap width height crop) unitSquare (cropRegion width height crop) := by
  obtain ⟨hleft, htop, hwide, hhigh, hright, hbottom⟩ := hcrop
  have hwidth : (0 : ℚ) < width := by
    rw [Int.cast_pos]
    omega
  have hheight : (0 : ℚ) < height := by
    rw [Int.cast_pos]
    omega
  have hs : (0 : ℚ) < crop.w / width := div_pos (Int.cast_pos.mpr hwide) hwidth
  have hr : (0 : ℚ) < crop.h / height := div_pos (Int.cast_pos.mpr hhigh) hheight
  have hmap : flipV ∘ cropMap width height crop = fun p : ℚ × ℚ =>
      (crop.w / width * p.1 + crop.x / width,
        crop.y / height + crop.h / height - crop.h / height * p.2) := by
    funext p
    simp only [Function.comp_apply, cropMap, flipV_apply]
    ext
    · rfl
    · field_simp
      ring
  have hregion : cropRegion width height crop =
      Set.Icc (crop.x / width : ℚ) (crop.x / width + crop.w / width) ×ˢ
        Set.Icc (crop.y / height : ℚ) (crop.y / height + crop.h / height) := by
    rw [cropRegion, add_div, add_div]
  rw [hmap, hregion]
  exact scaled_bijOn hs hr

/-- The texture matrix maps the unit square onto the crop, by undoing the transform, cropping and
flipping; and the matrices of the transforms multiply as the symmetries of the square do. -/
theorem computeTransformMatrixV2_geometry (hcrop : Crops crop width height)
    (hfrom : 0 ≤ transform) (hto : transform < 12) :
    let m : MatrixArray ℚ := (computeTransformMatrixV2 width height transform crop).1
    (IsPlanar m ∧ Set.BijOn (textureMap m) unitSquare (cropRegion width height crop) ∧
      textureMap m = flipV ∘ cropMap width height crop ∘ ⇑(action (symmetryOf transform))⁻¹) ∧
    Function.Injective (action : DihedralGroup 4 →* Equiv.Perm (ℚ × ℚ)) ∧
    (∀ g, ∃ t, 0 ≤ t ∧ t < 12 ∧ symmetryOf t = g) ∧
    (∀ t, 0 ≤ t ∧ t < 12 →
      textureMap (transformMatrixV2 t : MatrixArray ℚ) = ⇑(action (symmetryOf t))⁻¹) ∧
    ∀ t u v, 0 ≤ t ∧ t < 12 → 0 ≤ u ∧ u < 12 → 0 ≤ v ∧ v < 12 →
      symmetryOf v = symmetryOf u * symmetryOf t →
        matrixProduct (transformMatrixV2 t) (transformMatrixV2 u) =
          (transformMatrixV2 v : MatrixArray ℚ) := by
  intro m
  obtain ⟨hplanar, hmap⟩ := computeTransformMatrixV2_map hcrop hfrom hto
  refine ⟨⟨hplanar, ?_, ?_⟩, action_injective, exists_transform, fun t ht => ?_,
    fun t u v ht hu hv => transformMatrixV2_product ht hu hv⟩
  · rw [hmap, ← Function.comp_assoc]
    exact (flipV_cropMap_bijOn hcrop).comp (action_bijOn _)
  · rw [hmap, map_inv]
  · rw [(realizes_transformMatrixV2 ht.1 ht.2).map, map_inv]

/-- A crop that narrows one axis only, turned and flipped. -/
theorem computeTransformMatrixV2_geometry_upperHalf :
    let m : MatrixArray ℚ := (computeTransformMatrixV2 4 4 graphicFlipHRot90 ⟨0, 0, 4, 2⟩).1
    Set.BijOn (textureMap m) unitSquare (cropRegion 4 4 ⟨0, 0, 4, 2⟩) ∧
      textureMap m = flipV ∘ cropMap 4 4 ⟨0, 0, 4, 2⟩ ∘
        ⇑(action (symmetryOf graphicFlipHRot90))⁻¹ :=
  (computeTransformMatrixV2_geometry
    ⟨by decide, by decide, by decide, by decide, by decide, by decide⟩
    (by decide) (by decide)).1.2

end SurfaceUtils

end GraphicSurface
