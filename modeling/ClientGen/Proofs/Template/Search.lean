import ClientGen.Proofs.Disk.Aside
import ClientGen.Proofs.Disk.Tree
import ClientGen.Template.Library
import Mathlib.Data.List.TakeWhile

namespace ClientGen.Template.Library

open Disk (Near Aside)

variable {before after : Disk} {directory : Path} {root start : Place}

-- The search pattern of a directory is the directory itself, and there is room for the slash that it adds.
structure Literal (directory : Path) : Prop where
  plain : isPattern directory = false
  short : (directory ++ "/").utf8ByteSize < Disk.maxPath

instance (directory : Path) : Decidable (Literal directory) :=
  decidable_of_iff (isPattern directory = false ∧ (directory ++ "/").utf8ByteSize < Disk.maxPath)
    ⟨fun ⟨plain, short⟩ => ⟨plain, short⟩, fun literal => ⟨literal.plain, literal.short⟩⟩

theorem Literal.front (literal : Literal directory) :
    String.ofList ((directory ++ "/**/*.tera").toList.takeWhile (· != '*')) = directory ++ "/" := by
  have starless : ∀ c ∈ directory.toList, (c != '*') = true := by
    intro c member
    have sign := List.any_eq_false.mp literal.plain c member
    simp only [Bool.or_eq_true, not_or] at sign
    simpa using sign.1.1
  apply String.toList_injective
  rw [String.toList_ofList, String.toList_append, List.takeWhile_append_of_pos starless, String.toList_append]
  rfl

theorem filesThatFit_aside (aside : Aside root before after) (apart : ¬ Near root start) (place : Place)
    (pattern : String) :
    ((filesThatFit after place pattern).filterMap fun (place, content) =>
      if start.isPrefixOf place then some (place.drop start.length, content) else none) =
    (filesThatFit before place pattern).filterMap fun (place, content) =>
      if start.isPrefixOf place then some (place.drop start.length, content) else none := by
  simp only [filesThatFit, Disk.filesBelow, List.filterMap_filterMap]
  refine aside.filterMap fun (spot, entry) near => ?_
  have outside : ¬ start <+: spot := fun above => apart (near.above above)
  cases entry with
  | directory => rfl
  | file content =>
    by_cases below : place <+: spot
    · have whole : place ++ spot.drop place.length = spot := List.prefix_iff_eq_append.mp below
      simp only
      split
      next =>
        simp only [Option.bind_some]
        split
        next => simp [whole, outside]
        next => rfl
      next => rfl
    · simp [below]

theorem templateFiles_aside (literal : Literal directory) (aside : Aside root before after)
    (apart : ¬ Near root start) (found : before.find directory = .ok (start, .directory))
    (again : after.find directory = .ok (start, .directory)) :
    templateFiles after directory = templateFiles before directory := by
  simp only [templateFiles, literal.front, Disk.find_slash literal.short found, Disk.find_slash literal.short again]
  exact filesThatFit_aside aside apart _ _

end ClientGen.Template.Library
