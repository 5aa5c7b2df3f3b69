import LastGood.Proofs.Disk.Replacement

/-!
# Replacing a file again

The place of a path is all that a write and a move ask for, and neither takes a directory away.
So a replacement that succeeded succeeds again, with whatever bytes.
-/

namespace LastGood.Disk

namespace Place

variable {disk : Disk} {directory parent : Location} {path : Path} {name : String}

/-- The last name of a path is located at its place. -/
theorem locate_last (place : disk.Place directory path parent name) :
    disk.locateLast directory path = .ok (parent, some name) := by
  have holder := directory_of_enter place.entered
  simp only [locateLast, place.started, place.followed, holder, place.last, bind, Except.bind, pure,
    Except.pure]

/-- Bytes can be written at the place of a path where no directory is. -/
theorem write (place : disk.Place directory path parent name)
    (free : disk.get? (parent ++ [name]) ≠ some .directory) (content : ByteArray) :
    disk.write directory path content = .ok (disk.put (parent ++ [name]) (.file content)) := by
  simp only [Disk.write, place.locate_last, place.named, place.plain, place.entered, bind,
    Except.bind, pure, Except.pure, Bool.or_self, Bool.false_eq_true, if_false]

/-- A file at the place of one path can be moved to that of another one where no directory is. -/
theorem rename {target : Path} {newParent : Location} {newName : String} {content : ByteArray}
    (source : disk.Place directory path parent name)
    (place : disk.Place directory target newParent newName)
    (standing : disk.get? (parent ++ [name]) = some (.file content))
    (free : disk.get? (newParent ++ [newName]) ≠ some .directory) :
    disk.rename directory path target =
      .ok ((disk.erase (parent ++ [name])).put (newParent ++ [newName]) (.file content)) := by
  simp only [Disk.rename, source.locate_last, place.locate_last, source.named, place.named,
    source.plain, place.plain, source.entered, place.entered, standing, bind, Except.bind, pure,
    Except.pure, Bool.or_self, Bool.false_eq_true, if_false]

end Place

/-- Where a file beside a path took its place, another one can be written beside it and take its
place again. -/
theorem replaced_again {written renamed : Disk} {directory : Location} {aside path : Path}
    (moving : written.rename directory aside path = .ok renamed) (other : ByteArray) :
    ∃ rewritten replaced, renamed.write directory aside other = .ok rewritten ∧
      rewritten.rename directory aside path = .ok replaced := by
  obtain ⟨oldParent, oldName, newParent, newName, moved, source, target, standing, vacant,
    rfl⟩ := rename_ok moving
  have kept := move_keeps_directories standing vacant
  have gone : ((written.erase (oldParent ++ [oldName])).put (newParent ++ [newName])
      (.file moved)).get? (oldParent ++ [oldName]) ≠ some .directory := by
    by_cases same : oldParent ++ [oldName] = newParent ++ [newName]
    · rw [same, get?_put_self (by simp)]
      simp
    · rw [get?_put_of_ne same, get?_erase_self (by simp)]
      simp
  have rewritten := (source.kept kept).write gone other
  have still := put_keeps_directories _ _ (.file other) gone
  refine ⟨_, _, rewritten, ((source.kept kept).kept still).rename ((target.kept kept).kept still)
    (get?_put_self (by simp) _ _) ?_⟩
  by_cases same : newParent ++ [newName] = oldParent ++ [oldName]
  · rw [same, get?_put_self (by simp)]
    simp
  · rw [get?_put_of_ne same, get?_put_self (by simp)]
    simp

end LastGood.Disk
