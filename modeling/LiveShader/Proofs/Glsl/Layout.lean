import Mathlib.Data.List.Nodup
import LiveShader.Glsl.Layout
import LiveShader.Proofs.Text.ByteOrder

/-! # The numbers of a layout

A layout holds each name once. Its varyings stand in ascending order, so that they
depend on the names alone and not on where they are declared. -/

namespace LiveShader.Glsl

def Declaration.names (declaration : Declaration) : List (List Char) :=
  declaration.declarators.map baseName

namespace Layout

/-! ## Putting names into a list -/

theorem mem_appendNew {names : List (List Char)} {added name : List Char} :
    name ∈ appendNew names added ↔ name = added ∨ name ∈ names := by
  unfold appendNew
  split
  case isTrue present =>
    have member : added ∈ names := by simpa using present
    exact ⟨.inr, fun either => either.elim (fun same => same ▸ member) id⟩
  case isFalse => simp [or_comm]

theorem nodup_appendNew {names : List (List Char)} (nodup : names.Nodup) (added : List Char) :
    (appendNew names added).Nodup := by
  unfold appendNew
  split
  case isTrue => exact nodup
  case isFalse absent =>
    have fresh : added ∉ names := by simpa using absent
    rw [← List.concat_eq_append]
    exact nodup.concat fresh

theorem mem_insertSorted {names : List (List Char)} {added name : List Char} :
    name ∈ insertSorted names added ↔ name = added ∨ name ∈ names := by
  induction names with
  | nil => simp [insertSorted]
  | cons head rest induction =>
      rw [insertSorted]
      split
      case isTrue same => simp [same]
      case isFalse =>
        split
        case isTrue => simp
        case isFalse =>
          simp only [List.mem_cons, induction]
          exact or_left_comm

theorem pairwise_insertSorted {names : List (List Char)} (sorted : names.Pairwise (· < ·))
    (added : List Char) : (insertSorted names added).Pairwise (· < ·) := by
  induction names with
  | nil => simp [insertSorted]
  | cons head rest induction =>
      rcases List.pairwise_cons.mp sorted with ⟨least, later⟩
      rw [insertSorted]
      split
      case isTrue => exact sorted
      case isFalse different =>
        split
        case isTrue smaller =>
          refine List.pairwise_cons.mpr ⟨fun name member => ?_, sorted⟩
          rcases List.mem_cons.mp member with rfl | among
          · exact smaller
          · exact List.lt_trans smaller (least name among)
        case isFalse larger =>
          refine List.pairwise_cons.mpr ⟨fun name member => ?_, induction later⟩
          rcases mem_insertSorted.mp member with rfl | among
          · exact (List.le_iff_lt_or_eq.mp (List.not_lt.mp larger)).resolve_right
              fun same => different same.symm
          · exact least name among

theorem mem_foldl_insert {insert : List (List Char) → List Char → List (List Char)}
    (member : ∀ {names added name}, name ∈ insert names added ↔ name = added ∨ name ∈ names)
    {names added : List (List Char)} {name : List Char} :
    name ∈ added.foldl insert names ↔ name ∈ added ∨ name ∈ names := by
  induction added generalizing names with
  | nil => simp
  | cons head rest induction =>
      rw [List.foldl_cons, induction, member, List.mem_cons, or_left_comm, or_assoc]

/-! ## The layout of some declarations -/

def varyingNames (declarations : List Declaration) : List (List Char) :=
  (declarations.filter fun declaration => declaration.role = .varying).flatMap Declaration.names

def uniformNames (declarations : List Declaration) : List (List Char) :=
  (declarations.filter fun declaration =>
    declaration.role = .uniform && !declaration.isOpaque).flatMap Declaration.names

theorem varyings_extend (layout : Layout) (declaration : Declaration) :
    (layout.extend declaration).varyings =
      if declaration.role = .varying then declaration.names.foldl insertSorted layout.varyings
      else layout.varyings := by
  cases role : declaration.role with
  | uniform => by_cases sampled : declaration.isOpaque <;> simp [extend, role, sampled]
  | varying | vertexInput | fragmentOutput => simp [extend, role, Declaration.names]

theorem uniforms_extend (layout : Layout) (declaration : Declaration) :
    (layout.extend declaration).uniforms =
      if declaration.role = .uniform && !declaration.isOpaque then
        declaration.names.foldl appendNew layout.uniforms
      else layout.uniforms := by
  cases role : declaration.role with
  | uniform =>
      by_cases sampled : declaration.isOpaque <;> simp [extend, role, sampled, Declaration.names]
  | varying | vertexInput | fragmentOutput => simp [extend, role]

theorem varyings_ofDeclarations (declarations : List Declaration) :
    (ofDeclarations declarations).varyings =
      (varyingNames declarations).foldl insertSorted [] := by
  rw [varyingNames, List.foldl_flatMap, List.foldl_filter]
  refine (List.foldl_hom Layout.varyings fun layout declaration => ?_).symm
  simp only [varyings_extend, decide_eq_true_eq]

theorem uniforms_ofDeclarations (declarations : List Declaration) :
    (ofDeclarations declarations).uniforms =
      (uniformNames declarations).foldl appendNew [] := by
  rw [uniformNames, List.foldl_flatMap, List.foldl_filter]
  refine (List.foldl_hom Layout.uniforms fun layout declaration => ?_).symm
  simp only [uniforms_extend]

variable {declarations : List Declaration}

theorem mem_varyings {name : List Char} :
    name ∈ (ofDeclarations declarations).varyings ↔ name ∈ varyingNames declarations := by
  rw [varyings_ofDeclarations, mem_foldl_insert mem_insertSorted]
  simp

theorem mem_uniforms {name : List Char} :
    name ∈ (ofDeclarations declarations).uniforms ↔ name ∈ uniformNames declarations := by
  rw [uniforms_ofDeclarations, mem_foldl_insert mem_appendNew]
  simp

theorem pairwise_varyings : (ofDeclarations declarations).varyings.Pairwise (· < ·) := by
  rw [varyings_ofDeclarations]
  exact List.foldlRecOn _ _ List.Pairwise.nil
    fun names sorted added _ => pairwise_insertSorted sorted added

theorem nodup_varyings : (ofDeclarations declarations).varyings.Nodup :=
  pairwise_varyings.imp fun {first second} less (same : first = second) =>
    List.lt_irrefl second (same ▸ less)

theorem nodup_uniforms : (ofDeclarations declarations).uniforms.Nodup := by
  rw [uniforms_ofDeclarations]
  exact List.foldlRecOn _ _ List.nodup_nil fun names nodup added _ => nodup_appendNew nodup added

variable {layout : Layout} {declarator : List Char} {number : Nat}

theorem getElem?_of_location? (found : layout.location? declarator = some number) :
    layout.varyings[number]? = some (Declaration.baseName declarator) := by
  rcases List.idxOf?_eq_some_iff.mp found with ⟨bound, same, _⟩
  rw [List.getElem?_eq_getElem bound, same]

theorem getElem?_of_binding? (found : layout.binding? declarator = some number) :
    layout.uniforms[number]? = some (Declaration.baseName declarator) := by
  rcases List.idxOf?_eq_some_iff.mp found with ⟨bound, same, _⟩
  rw [List.getElem?_eq_getElem bound, same]

theorem isSome_location? :
    (layout.location? declarator).isSome ↔ Declaration.baseName declarator ∈ layout.varyings :=
  List.isSome_idxOf?

theorem isSome_binding? :
    (layout.binding? declarator).isSome ↔ Declaration.baseName declarator ∈ layout.uniforms :=
  List.isSome_idxOf?

end Layout

end LiveShader.Glsl
