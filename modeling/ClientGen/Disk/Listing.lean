import ClientGen.Disk.Access
import ClientGen.Text.Utf8

namespace ClientGen.Disk

def tree (disk : Disk) : List String :=
  let paths := disk.entries.filterMap fun (place, entry) =>
    (disk.below? place).map fun names =>
      "/".intercalate names ++ match entry with
        | .directory => "/"
        | .file _ => ""
  paths.mergeSort fun a b => decide (a ≤ b)

def dump (disk : Disk) : List (String × String) :=
  let files := (disk.filesBelow disk.workingDirectory).map fun (names, content) =>
    ("/".intercalate names, Text.Utf8.decodeLossy content)
  files.mergeSort fun a b => decide (a.1 ≤ b.1)

end ClientGen.Disk
