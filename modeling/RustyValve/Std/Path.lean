import RustyValve.Std.Text

namespace RustyValve

-- `std::path` on Unix: a root or a leading `.`, then the pieces between the separators.
namespace Path

def front : Str → ℕ
  | '/' :: _ => 1
  | ['.'] => 1
  | '.' :: '/' :: _ => 1
  | _ => 0

-- Empty pieces and further `.` pieces are passed over.
def blank (piece : Str) : Bool := piece = [] || piece = ['.']

def lastFirst (path : Str) : List Str :=
  (List.splitOn '/' (path.drop (front path))).reverse.dropWhile blank

def fileName (path : Str) : Option Str :=
  match lastFirst path with
  | [] => none
  | piece :: _ => if piece = "..".toList then none else some piece

def parent (path : Str) : Option Str :=
  match lastFirst path with
  | [] => if path.take (front path) = ['.'] then some [] else none
  | _ :: pieces => some (path.take (front path) ++
      List.intercalate ['/'] (pieces.dropWhile blank).reverse)

example : (parent "/var/log//./valve.log".toList,fileName "debug.log/".toList,
    parent "debug.log".toList,fileName "logs/..".toList) =
    (some "/var/log".toList,some "debug.log".toList,some [],none) := by decide +kernel

theorem parent_of_fileName {path name : Str} (h : fileName path = some name) :
    ∃ dirname, parent path = some dirname := by
  unfold fileName at h
  unfold parent
  cases hp : lastFirst path with
  | nil => simp [hp] at h
  | cons piece pieces => exact ⟨_,rfl⟩

end Path

end RustyValve
