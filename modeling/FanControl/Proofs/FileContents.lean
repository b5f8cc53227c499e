import FanControl.Proofs.Directories
import FanControl.Proofs.Utf8

/-!
# What files hold

A plain file that a path leads to can be read and replaced (`FileTree.readBytes_of_file`,
`FileTree.replace_of_file`). Reading depends on where the path leads and on what is there, and on
nothing else (`FileTree.readBytes_congr`); bytes that encode a text are read as the text.
-/

namespace FanControl.FileTree

variable {t t' : FileTree} {path : String} {id : NodeId} {old new : List UInt8}

/-- Replacing the content of a file changes no directory. -/
theorem file_directories (h : t.nodes[id]? = some (.file old)) (new : List UInt8) :
    t.SameDirectories (t.setNode id (.file new)) :=
  .setNode (directory?_eq_none_of_file h) nofun

/-- A file that a path leads to can be replaced. -/
theorem replace_of_file (hpath : t.locate path = .ok id) (hfile : t.nodes[id]? = some (.file old)) :
    t.replace path new = .ok (t.setNode id (.file new)) := by
  rw [replace, hpath]
  dsimp only [bind, Except.bind]
  rw [hfile]

theorem readBytes_of_file (hpath : t.locate path = .ok id)
    (hfile : t.nodes[id]? = some (.file old)) : t.readBytes path = .ok old := by
  rw [readBytes, hpath]
  dsimp only [bind, Except.bind]
  rw [hfile]

/-- Reading depends on where the path leads and on what is there. -/
theorem readBytes_congr (hpath : t'.locate path = t.locate path)
    (hnode : ∀ id, t.locate path = .ok id → t'.nodes[id]? = t.nodes[id]?) :
    t'.readBytes path = t.readBytes path := by
  rw [readBytes, readBytes, hpath]
  rcases hlocate : t.locate path with f | id
  · rfl
  · dsimp only [bind, Except.bind]
    rw [hnode id hlocate]

theorem readText_of_readBytes {content : String}
    (h : t.readBytes path = .ok (bytesOfText content)) : t.readText path = .ok content := by
  rw [readText, h]
  dsimp only [bind, Except.bind]
  rw [textOfBytes?_bytesOfText]

theorem readText_congr (h : t'.readBytes path = t.readBytes path) :
    t'.readText path = t.readText path := by
  rw [readText, readText, h]

end FanControl.FileTree
