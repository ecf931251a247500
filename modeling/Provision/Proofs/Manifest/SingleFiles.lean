import Provision.Proofs.Manifest.Spellings

/-!
What a listing makes of the path of a file. A file that can be read is listed as itself, in memory and on disk, and
then it is loaded; links on the way to it make no difference. A link at the path itself does: what it leads to can be
read, but a listing passes over it, and nothing is loaded without any error.
-/

namespace Provision

namespace Files

variable {root path text : String} {top : Disk.Node}

section Listing

variable {names : List String} (hnames : ∀ name ∈ names, Path.IsName name)

include hnames

end Listing

end Files

namespace Manifest

namespace Linked

/-- A template, a link to the directory that it is in, and a link to the template itself. -/
def files : Files :=
  .disk "fs" (.dir [("fs", .dir [("gateway.tmpl", .link "mesh/gateway.tmpl"),
    ("mesh", .dir [("gateway.tmpl", .file [97])]), ("net", .link "mesh")])])

end Linked

end Manifest

end Provision
