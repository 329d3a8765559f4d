/-
RegexTokens.Storage.FileTree — files and directories held in memory.

A path is followed name by name from the working directory, or from the root
of an empty file system if it starts with a slash. A name leads on only from
a directory; an empty name and `.` stay there and `..` leads to the directory
around it. Around the working directory nothing else exists.

A file tree is a storage whose files are known, so what a run says about them
can be computed: it is what runs are tried on and what examples of runs are
about.
-/
import RegexTokens.Storage.Basic

namespace RegexTokens

/-- A file, or a directory of named entries. -/
inductive FileTree
  | file (content : ByteArray)
  | directory (entries : List (String × FileTree))

namespace FileTree

/-- The most bytes a name may have. -/
def nameLimit : Nat := 255

/-- The number of bytes a path has to stay below. -/
def pathLimit : Nat := 4096

/-- The names of a path, which slashes divide. -/
def names (path : String) : List String := (path.toList.splitOn '/').map String.ofList

theorem names_of_not_mem {name : String} (h : '/' ∉ name.toList) : names name = [name] := by
  rw [names, List.splitOn_eq_singleton h, List.map_singleton, String.ofList_toList]

/-- What the names lead to from `here`, which lies in the directories
`around`, the innermost first. -/
def follow (here : FileTree) (around : List FileTree) : List String → Except ReadFailure FileTree
  | [] => .ok here
  | name :: names =>
    match here with
    | file _ => .error .notDirectory
    | directory entries =>
      if nameLimit < name.utf8ByteSize then .error .nameTooLong
      else if name = "" ∨ name = "." then follow here around names
      else if name = ".." then
        match around with
        | [] => follow here [] names
        | outer :: more => follow outer more names
      else
        match entries.lookup name with
        | some next => follow next (here :: around) names
        | none => .error .notFound

/-- What a path leads to from a working directory. -/
def resolve (working : FileTree) (path : String) : Except ReadFailure FileTree :=
  if pathLimit ≤ path.utf8ByteSize then .error .nameTooLong
  else if path = "" then .error .notFound
  else if (names path).head? = some "" then follow (directory []) [] (names path)
  else follow working [directory []] (names path)

/-- The storage of the files below a working directory. -/
def storage (working : FileTree) : Storage := fun path =>
  match working.resolve path with
  | .error failure => .error failure
  | .ok (file content) => .ok content
  | .ok (directory _) => .error .isDirectory

/-- A file of the working directory is read by its name. -/
theorem storage_of_lookup {entries : List (String × FileTree)} {name : String}
    {content : ByteArray} (hname : '/' ∉ name.toList)
    (hplain : name ∉ ["", ".", ".."]) (hlimit : name.utf8ByteSize ≤ nameLimit)
    (h : entries.lookup name = some (file content)) :
    (directory entries).storage name = .ok content := by
  simp only [List.mem_cons, List.not_mem_nil, or_false, not_or] at hplain
  obtain ⟨hempty, hhere, haround⟩ := hplain
  have hpath : ¬pathLimit ≤ name.utf8ByteSize := by
    simp only [nameLimit, pathLimit] at hlimit ⊢
    omega
  have hresolve : (directory entries).resolve name = .ok (file content) := by
    simp [resolve, names_of_not_mem hname, hpath, hempty, follow, Nat.not_lt.2 hlimit, hhere,
      haround, h]
  rw [storage, hresolve]

end FileTree

end RegexTokens
