import GroupVoip.CodecInfo
import GroupVoip.Library.Extent
import GroupVoip.Library.Runs
import Mathlib.Algebra.Order.Ring.Rat
import Mathlib.Algebra.Field.Rat

/-!
# Mesh

The bounds of a mesh are widened while its vertices are read, and for an
upload once more before they are scaled.  They start at 0 and are never put
back, so they are those of all the meshes that were ever read.

Floats are rationals here.  What the importer reads, and whether the materials
can be initialised, comes with the call.
-/

namespace GroupVoip

open Library.Extents Library.Runs

structure Vec3 where
  x : ℚ
  y : ℚ
  z : ℚ
deriving DecidableEq, Repr

/-- The vertices of the meshes in a file, and what `InitMaterials` returns. -/
structure Scene where
  mMeshes : List (List Vec3)
  materials : Bool := true
  nonempty : mMeshes.flatten ≠ []

/-- The x coordinates that the importer reads. -/
def Scene.xs (pScene : Scene) : List ℚ :=
  pScene.mMeshes.flatten.map Vec3.x

def DELTA_IN_FRONT_OF_CANDIDE3 : ℚ := 3

/-- The constant depends on `DESKTOP_GL`. -/
def DELTA_BIGGER_THAN_CANDIDE3 (desktopGL : Bool) : ℚ :=
  if desktopGL then 103 / 100 else -105 / 100

/-- `entries` are the positions that the buffers of the mesh hold, and there is
no ratio before the first `LoadMesh`. -/
structure Mesh where
  xMax : ℚ := 0
  yMax : ℚ := 0
  zMax : ℚ := 0
  xMin : ℚ := 0
  yMin : ℚ := 0
  zMin : ℚ := 0
  candide3WidthRatio : Option ℚ := none
  entries : List (List Vec3) := []
deriving DecidableEq, Repr

inductive MeshCall where
  | LoadMesh (pScene : Option Scene) (zRotateInDegree : ℚ)
      (bUploadCandide3Vertices : Bool) (candide3Vec : List Vec3)
  | reloadMesh (pScene : Option Scene) (zRotateInDegree : ℚ)

namespace Mesh

def getWidth (m : Mesh) : ℚ :=
  m.xMax - m.xMin

def clear (m : Mesh) : Mesh :=
  { m with entries := [] }

/-- The comparisons with the bounds. -/
def stretch (m : Mesh) (p : Vec3) : Mesh :=
  { m with
    xMax := if p.x > m.xMax then p.x else m.xMax
    yMax := if p.y > m.yMax then p.y else m.yMax
    zMax := if p.z > m.zMax then p.z else m.zMax
    xMin := if p.x < m.xMin then p.x else m.xMin
    yMin := if p.y < m.yMin then p.y else m.yMin
    zMin := if p.z < m.zMin then p.z else m.zMin }

def getMeshWidthInfo (m : Mesh) (pScene : Scene) : Mesh :=
  pScene.mMeshes.foldl (fun m paiMesh => paiMesh.foldl stretch m) m

def initMesh (zRotateInDegree widthRatio : ℚ) (m : Mesh)
    (paiMesh : List Vec3) : Mesh :=
  let yFloatUp : ℚ := if zRotateInDegree = 90 then 15 else 8
  let deltaInFrontOfCandide3 : ℚ :=
    if widthRatio > 0 then DELTA_IN_FRONT_OF_CANDIDE3 else 0
  let m := (paiMesh.map fun p => (⟨p.x * widthRatio,
      (p.y + yFloatUp) * widthRatio, p.z * widthRatio⟩ : Vec3)).foldl stretch m
  { m with
    entries := m.entries ++ [paiMesh.map fun p => ⟨p.x * widthRatio,
      (p.y + yFloatUp) * widthRatio,
      (p.z + deltaInFrontOfCandide3) * widthRatio⟩] }

/-- A ratio that was never set is read before it has a value. -/
def initFromScene (m : Mesh) (pScene : Scene) (zRotateInDegree : ℚ) :
    Except Abort (Mesh × Bool) :=
  match m.candide3WidthRatio with
  | some widthRatio =>
      .ok (pScene.mMeshes.foldl (initMesh zRotateInDegree widthRatio) m,
        pScene.materials)
  | none => .error .undefinedBehaviour

def getVecWidth (vec : List Vec3) : ℚ :=
  (vec.foldl (fun bounds vert => bounds.widen vert.x)
    (⟨0, 0⟩ : Extent ℚ)).width

/-- The ratio of a `LoadMesh` call; a quotient by 0 is undefined. -/
def setWidthRatio (desktopGL : Bool) (m : Mesh) (pScene : Scene)
    (bUploadCandide3Vertices : Bool) (candide3Vec : List Vec3) :
    Except Abort Mesh :=
  if bUploadCandide3Vertices then
    let candide3Width := getVecWidth candide3Vec
    let m := m.getMeshWidthInfo pScene
    if m.getWidth = 0 then .error .undefinedBehaviour
    else
      .ok { m with
        candide3WidthRatio := some (candide3Width *
          DELTA_BIGGER_THAN_CANDIDE3 desktopGL / m.getWidth) }
  else .ok { m with candide3WidthRatio := some 1 }

/-- A call, with what it returns. -/
def call (desktopGL : Bool) (m : Mesh) :
    MeshCall → Except Abort (Mesh × Bool)
  | .LoadMesh none _ _ _ => .ok (m.clear, false)
  | .LoadMesh (some pScene) zRotateInDegree bUploadCandide3Vertices
      candide3Vec => do
        let m ← m.clear.setWidthRatio desktopGL pScene bUploadCandide3Vertices
          candide3Vec
        m.initFromScene pScene zRotateInDegree
  | .reloadMesh none _ => .ok (m.clear, false)
  | .reloadMesh (some pScene) zRotateInDegree =>
      m.clear.initFromScene pScene zRotateInDegree

/-- The mesh after a call that succeeds. -/
def succeed (desktopGL : Bool) (m : Mesh) (c : MeshCall) :
    Except (Option Abort) Mesh :=
  match m.call desktopGL c with
  | .ok (m', true) => .ok m'
  | .ok (_, false) => .error none
  | .error stopped => .error (some stopped)

/-! ## The bounds of the x coordinates -/

def xExtent (m : Mesh) : Extent ℚ :=
  ⟨m.xMax, m.xMin⟩

theorem xExtent_width (m : Mesh) : m.xExtent.width = m.getWidth :=
  rfl

/-- The x coordinates of the vertices that are loaded, as scaled. -/
def loadedXs (m : Mesh) : List ℚ :=
  m.entries.flatten.map Vec3.x

theorem foldl_stretch (ps : List Vec3) (m : Mesh) :
    (ps.foldl stretch m).xExtent = m.xExtent.widenAll (ps.map Vec3.x) ∧
      (ps.foldl stretch m).entries = m.entries ∧
      (ps.foldl stretch m).candide3WidthRatio = m.candide3WidthRatio := by
  induction ps generalizing m with
  | nil => exact ⟨rfl, rfl, rfl⟩
  | cons p rest inductionHypothesis => exact inductionHypothesis (m.stretch p)

theorem getMeshWidthInfo_xExtent (m : Mesh) (pScene : Scene) :
    (m.getMeshWidthInfo pScene).xExtent = m.xExtent.widenAll pScene.xs ∧
      (m.getMeshWidthInfo pScene).entries = m.entries := by
  unfold getMeshWidthInfo Scene.xs
  generalize pScene.mMeshes = meshes
  induction meshes generalizing m with
  | nil => exact ⟨rfl, rfl⟩
  | cons paiMesh rest inductionHypothesis =>
      obtain ⟨bounds, entries⟩ :=
        inductionHypothesis (paiMesh.foldl stretch m)
      obtain ⟨first, sameEntries, _⟩ := foldl_stretch paiMesh m
      rw [List.foldl_cons, List.flatten_cons, List.map_append,
        Extent.widenAll_append, ← first]
      exact ⟨bounds, entries.trans sameEntries⟩

theorem initMesh_xExtent (zRotateInDegree widthRatio : ℚ) (m : Mesh)
    (paiMesh : List Vec3) :
    (initMesh zRotateInDegree widthRatio m paiMesh).xExtent =
        m.xExtent.widenAll ((paiMesh.map Vec3.x).map (· * widthRatio)) ∧
      (initMesh zRotateInDegree widthRatio m paiMesh).loadedXs =
        m.loadedXs ++ (paiMesh.map Vec3.x).map (· * widthRatio) := by
  unfold initMesh
  dsimp only
  generalize (if zRotateInDegree = 90 then (15 : ℚ) else 8) = yFloatUp
  have stretched := foldl_stretch (paiMesh.map fun p => (⟨p.x * widthRatio,
    (p.y + yFloatUp) * widthRatio, p.z * widthRatio⟩ : Vec3)) m
  rw [List.map_map] at stretched
  rw [List.map_map]
  refine ⟨stretched.1, ?_⟩
  unfold loadedXs
  rw [stretched.2.1, List.flatten_append, List.map_append,
    List.flatten_singleton, List.map_map]
  rfl

theorem foldl_initMesh (zRotateInDegree widthRatio : ℚ)
    (meshes : List (List Vec3)) (m : Mesh) :
    (meshes.foldl (initMesh zRotateInDegree widthRatio) m).xExtent =
        m.xExtent.widenAll
          ((meshes.flatten.map Vec3.x).map (· * widthRatio)) ∧
      (meshes.foldl (initMesh zRotateInDegree widthRatio) m).loadedXs =
        m.loadedXs ++ (meshes.flatten.map Vec3.x).map (· * widthRatio) := by
  induction meshes generalizing m with
  | nil => exact ⟨rfl, (List.append_nil _).symm⟩
  | cons paiMesh rest inductionHypothesis =>
      obtain ⟨bounds, loaded⟩ := inductionHypothesis
        (initMesh zRotateInDegree widthRatio m paiMesh)
      obtain ⟨first, firstLoaded⟩ :=
        initMesh_xExtent zRotateInDegree widthRatio m paiMesh
      rw [List.foldl_cons, List.flatten_cons, List.map_append,
        List.map_append, Extent.widenAll_append, ← first, ← List.append_assoc,
        ← firstLoaded]
      exact ⟨bounds, loaded⟩

/-! ## One call -/

variable {desktopGL : Bool} {m m' : Mesh} {pScene : Scene} {c : MeshCall}

/-- The ratio that a call scales with. -/
def widthRatio (desktopGL : Bool) (m : Mesh) : MeshCall → ℚ
  | .LoadMesh (some pScene) _ true candide3Vec =>
      getVecWidth candide3Vec * DELTA_BIGGER_THAN_CANDIDE3 desktopGL /
        (m.getMeshWidthInfo pScene).getWidth
  | .LoadMesh _ _ _ _ => 1
  | .reloadMesh _ _ => m.candide3WidthRatio.getD 1

/-- The x coordinates in the file of a call. -/
def fileXs : MeshCall → List ℚ
  | .LoadMesh pScene _ _ _ => (pScene.map Scene.xs).getD []
  | .reloadMesh pScene _ => (pScene.map Scene.xs).getD []

/-- The x coordinates that a call looks at before it scales them. -/
def measuredXs : MeshCall → List ℚ
  | .LoadMesh pScene _ true _ => (pScene.map Scene.xs).getD []
  | .LoadMesh _ _ false _ => []
  | .reloadMesh _ _ => []

def scaledXs (desktopGL : Bool) (m : Mesh) (c : MeshCall) : List ℚ :=
  (fileXs c).map (· * m.widthRatio desktopGL c)

theorem initFromScene_ok {zRotateInDegree : ℚ} {materials : Bool}
    (loaded : m.initFromScene pScene zRotateInDegree = .ok (m', materials)) :
    ∃ ratio, m.candide3WidthRatio = some ratio ∧
      m'.xExtent = m.xExtent.widenAll (pScene.xs.map (· * ratio)) ∧
      m'.loadedXs = m.loadedXs ++ pScene.xs.map (· * ratio) := by
  unfold initFromScene at loaded
  split at loaded
  · rename_i ratio isRatio
    cases loaded
    exact ⟨ratio, isRatio,
      foldl_initMesh zRotateInDegree ratio pScene.mMeshes m⟩
  · cases loaded

theorem setWidthRatio_ok (zRotateInDegree : ℚ)
    {bUploadCandide3Vertices : Bool} {candide3Vec : List Vec3}
    (isSet : m.clear.setWidthRatio desktopGL pScene bUploadCandide3Vertices
      candide3Vec = .ok m') :
    m'.candide3WidthRatio = some (m.widthRatio desktopGL
        (.LoadMesh (some pScene) zRotateInDegree bUploadCandide3Vertices
          candide3Vec)) ∧
      m'.xExtent = m.xExtent.widenAll (measuredXs (.LoadMesh (some pScene)
        zRotateInDegree bUploadCandide3Vertices candide3Vec)) ∧
      m'.entries = [] := by
  cases bUploadCandide3Vertices with
  | false =>
      cases isSet
      exact ⟨rfl, rfl, rfl⟩
  | true =>
      obtain ⟨cleared, empty⟩ := getMeshWidthInfo_xExtent m.clear pScene
      obtain ⟨same, _⟩ := getMeshWidthInfo_xExtent m pScene
      have width : (m.clear.getMeshWidthInfo pScene).getWidth =
          (m.getMeshWidthInfo pScene).getWidth := by
        rw [← xExtent_width, ← xExtent_width, cleared, same]
        rfl
      unfold setWidthRatio at isSet
      rw [if_pos rfl] at isSet
      dsimp only at isSet
      split at isSet
      · cases isSet
      · cases isSet
        refine ⟨?_, cleared, empty⟩
        rw [width]
        rfl

/-- A call that succeeds loads the scaled coordinates, and widens the bounds by
them and by those that it has looked at before. -/
theorem succeed_ok (succeeds : m.succeed desktopGL c = .ok m') :
    m'.loadedXs = m.scaledXs desktopGL c ∧
      m'.xExtent = (m.xExtent.widenAll (measuredXs c)).widenAll
        (m.scaledXs desktopGL c) := by
  have returned : m.call desktopGL c = .ok (m', true) := by
    unfold succeed at succeeds
    split at succeeds
    · cases succeeds
      assumption
    · cases succeeds
    · cases succeeds
  cases c with
  | LoadMesh pScene zRotateInDegree bUploadCandide3Vertices candide3Vec =>
      cases pScene with
      | none => cases returned
      | some pScene =>
          obtain ⟨ready, isSet, loaded⟩ := bind_ok.mp returned
          obtain ⟨isRatio, bounds, empty⟩ :=
            setWidthRatio_ok zRotateInDegree isSet
          obtain ⟨ratio, isRatioToo, widened, loadedXs⟩ :=
            initFromScene_ok loaded
          rw [isRatio, Option.some.injEq] at isRatioToo
          rw [← isRatioToo] at widened loadedXs
          constructor
          · rw [loadedXs, Mesh.loadedXs, empty]
            rfl
          · rw [widened, bounds]
            rfl
  | reloadMesh pScene zRotateInDegree =>
      cases pScene with
      | none => cases returned
      | some pScene =>
          obtain ⟨ratio, isRatio, widened, loadedXs⟩ :=
            initFromScene_ok returned
          have same : m.widthRatio desktopGL
              (.reloadMesh (some pScene) zRotateInDegree) = ratio := by
            rw [widthRatio]
            rw [show m.candide3WidthRatio = some ratio from isRatio]
            rfl
          rw [← same] at widened loadedXs
          exact ⟨loadedXs, widened⟩

/-! ## The width -/

/-- `getWidth` is the width of the vertices that are loaded. -/
def WidthExact (m : Mesh) : Prop :=
  ∃ xMax xMin, IsGreatest {x | x ∈ m.loadedXs} xMax ∧
    IsLeast {x | x ∈ m.loadedXs} xMin ∧ m.getWidth = xMax - xMin

/-- The scaled coordinates of a call reach as far as the bounds from before
and as the coordinates in its file that are looked at unscaled. -/
def ReachesBounds (desktopGL : Bool) (m : Mesh) (c : MeshCall) : Prop :=
  (∃ x, x ∈ m.scaledXs desktopGL c ∧ m.xMax ≤ x ∧
      ∀ y, y ∈ measuredXs c → y ≤ x) ∧
    ∃ x, x ∈ m.scaledXs desktopGL c ∧ x ≤ m.xMin ∧
      ∀ y, y ∈ measuredXs c → x ≤ y

theorem widthExact_iff (succeeds : m.succeed desktopGL c = .ok m') :
    m'.WidthExact ↔ m.ReachesBounds desktopGL c := by
  obtain ⟨loaded, bounds⟩ := succeed_ok succeeds
  unfold WidthExact
  rw [← xExtent_width, loaded, bounds, Extent.width_widenAll_iff]
  unfold Extent.ReachedBy
  simp only [Extent.widenAll_hi_le_iff, Extent.le_widenAll_lo_iff]
  exact Iff.rfl

/-- In a sequence of calls that succeed, the width after each of them is that
of the mesh it has loaded exactly when this mesh reaches the bounds that the
calls before have left. -/
theorem getWidth_exact_iff (desktopGL : Bool) (calls : List MeshCall) :
    EveryStep (succeed desktopGL) (fun m c => ∀ next,
        m.succeed desktopGL c = .ok next → next.WidthExact) {} calls ↔
      EveryStep (succeed desktopGL) (fun m c =>
        (m.succeed desktopGL c).isOk = true → m.ReachesBounds desktopGL c)
        {} calls := by
  refine everyStep_congr (fun _ => True) ?_ (fun _ _ _ _ _ _ => trivial)
    trivial
  intro m c _
  constructor
  · intro widths succeeds
    obtain ⟨next, loaded⟩ := exists_ok succeeds
    exact (widthExact_iff loaded).mp (widths next loaded)
  · intro reaches next loaded
    refine (widthExact_iff loaded).mpr (reaches ?_)
    rw [loaded]
    rfl

/-- Two vertices to the left and to the right. -/
def symmetricScene (x : ℚ) : Scene where
  mMeshes := [[⟨-x, 0, 0⟩, ⟨x, 0, 0⟩]]
  nonempty := List.cons_ne_nil _ _

def loadWide : MeshCall :=
  .LoadMesh (some (symmetricScene 4)) 0 false []

def reloadNarrow : MeshCall :=
  .reloadMesh (some (symmetricScene 1)) 0

theorem wideThenNarrow_loaded :
    ∃ wide narrow, succeed true {} loadWide = .ok wide ∧
      wide.succeed true reloadNarrow = .ok narrow ∧ narrow.getWidth = 8 ∧
      narrow.loadedXs = [-1, 1] :=
  ⟨_, _, rfl, rfl, by decide +kernel, by decide +kernel⟩

/-- A narrow mesh that is loaded after a wide one has the width of the wide
one. -/
theorem getWidth_wideThenNarrow :
    ¬ ∀ calls, EveryStep (succeed true) (fun m c => ∀ next,
      m.succeed true c = .ok next → next.WidthExact) {} calls := by
  intro widths
  obtain ⟨wide, narrow, loadsWide, loadsNarrow, width, loaded⟩ :=
    wideThenNarrow_loaded
  have both := widths [loadWide, reloadNarrow]
  obtain ⟨xMax, xMin, greatest, least, isWidth⟩ :=
    (both.2 wide loadsWide).1 narrow loadsNarrow
  rw [loaded] at greatest least
  have top : xMax ≤ 1 := by
    rcases List.mem_pair.mp greatest.1 with low | high
    · rw [low]
      decide
    · rw [high]
  have bottom : -1 ≤ xMin := by
    rcases List.mem_pair.mp least.1 with low | high
    · rw [low]
    · rw [high]
      decide
  rw [width] at isWidth
  have narrower : xMax - xMin ≤ 1 - -1 := sub_le_sub top bottom
  rw [← isWidth] at narrower
  exact absurd narrower (by decide +kernel)

end Mesh

end GroupVoip
