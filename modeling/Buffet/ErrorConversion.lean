import Buffet.Error

/-! # Converting an error chain (weave_error_conversion.h)

`ConvertError` copies a `brillo::Error` chain into a `weave::Error` one, or back. The two classes
have the same fields and the same `AddTo`, so both are `Error` here.
-/

namespace Buffet

/-- `ConvertError(source, &destination)`: the inner error is converted first, then the outer
link is added on top with `AddTo`. -/
def convertError : Error → ErrorPtr → ErrorPtr
  | ⟨location, domain, code, message, innerError⟩, destination =>
    let destination := match innerError with
      | some innerError => convertError innerError destination
      | none => destination
    Error.addTo destination ⟨location.functionName, location.fileName, location.lineNumber⟩
      domain code message

theorem convertError_eq_addEntries : ∀ (source : Error) (destination : ErrorPtr),
    convertError source destination = destination.addEntries source.links.reverse
  | ⟨_, _, _, _, none⟩, _ => rfl
  | ⟨l, d, c, m, some inner⟩, destination => by
    rw [convertError, convertError_eq_addEntries inner destination]
    simp [Error.links, ErrorPtr.addEntries, List.foldl_append, ErrorPtr.push]

/-- The destination ends up holding the source's links, outermost first and in the same order,
on top of the chain it held before. -/
theorem convertError_links (source : Error) (destination : ErrorPtr) :
    (convertError source destination).links = source.links ++ destination.links := by
  simp [convertError_eq_addEntries]

theorem convertError_none (source : Error) : convertError source none = some source :=
  ErrorPtr.eq_of_links_eq (by simp [convertError_links])

theorem convert_error_chain (source : Error) (destination : ErrorPtr) :
    (convertError source destination).links = source.links ++ destination.links ∧
      (convertError source none).bind (fun copy => convertError copy none) = some source := by
  refine ⟨convertError_links source destination, ?_⟩
  simp [convertError_none]

end Buffet
