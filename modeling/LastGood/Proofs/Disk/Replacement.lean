import LastGood.Machine
import LastGood.Proofs.Disk.Following

/-!
# Replacing a file

A text is written to a file beside the one it is for, which then takes that one's place.
If both steps succeed, reading the path finds just the text. If only the first one does,
reading the path finds what it found before, because a longer last name in the same
directory is another location.
-/

namespace LastGood

namespace Text

/-- A text without separators is one piece. -/
theorem pieces_of_free {separator : Char} {cs : List Char} (free : separator ∉ cs) :
    pieces separator cs = [cs] := by
  induction cs with
  | nil => rfl
  | cons c rest ih =>
    have different : c ≠ separator := fun same => free (by simp [same])
    have inner : separator ∉ rest := fun member => free (by simp [member])
    simp [pieces, different, ih inner]

/-- Text without the separator behind a list of characters lengthens its last piece. That
piece is empty only at the start and behind a separator. -/
theorem pieces_append (separator : Char) (cs suffix : List Char) (free : separator ∉ suffix) :
    ∃ (before : List (List Char)) (last : List Char),
      pieces separator cs = before ++ [last] ∧
      pieces separator (cs ++ suffix) = before ++ [last ++ suffix] ∧
      (last = [] → cs = [] ∨ cs.getLast? = some separator) := by
  induction cs with
  | nil => exact ⟨[], [], rfl, by simpa using pieces_of_free free, fun _ => .inl rfl⟩
  | cons c rest ih =>
    obtain ⟨before, last, split, longer, empty⟩ := ih
    by_cases same : c = separator
    · refine ⟨[] :: before, last, by simp [pieces, same, split],
        by simp [pieces, same, longer], ?_⟩
      intro vacant
      rcases empty vacant with rfl | ends
      · exact .inr (by simp [same])
      · exact .inr (by simp [List.getLast?_cons, ends])
    · cases before with
      | nil =>
        refine ⟨[], c :: last, by simp [pieces, same, split], by simp [pieces, same, longer], ?_⟩
        intro vacant
        exact absurd vacant (List.cons_ne_nil c last)
      | cons piece others =>
        refine ⟨(c :: piece) :: others, last, by simp [pieces, same, split],
          by simp [pieces, same, longer], ?_⟩
        intro vacant
        rcases empty vacant with rfl | ends
        · simp [pieces] at split
        · exact .inr (by simp [List.getLast?_cons, ends])

end Text

namespace Disk

/-- A path that is continued by text without slashes has the same names with a longer last
one, provided that it has text and does not end in a slash. -/
theorem names_extended (path : Path) (suffix : String) (free : '/' ∉ suffix.toList)
    (written : path.text ≠ "") (plain : path.endsInSlash = false) :
    ∃ (before : List String) (last : String), names path = before ++ [last] ∧
      names (path.extended suffix) = before ++ [last ++ suffix] := by
  obtain ⟨before, last, split, longer, empty⟩ :=
    Text.pieces_append '/' path.text.toList suffix.toList free
  have named : last ≠ [] := by
    intro vacant
    rcases empty vacant with none | ends
    · exact written (String.toList_eq_nil_iff.mp none)
    · simp [Path.endsInSlash, ends] at plain
  refine ⟨before.filterMap fun piece => if piece.isEmpty then none else some (.ofList piece),
    String.ofList last, ?_, ?_⟩
  · simp [names, split, named]
  · simp [names, Path.extended, String.toList_append, longer, named, String.ofList_append]

/-- Text behind a path with text makes it neither absolute nor relative. -/
theorem absolute_extended (path : Path) (suffix : String) (written : path.text ≠ "") :
    (path.extended suffix).isAbsolute = path.isAbsolute := by
  obtain ⟨c, rest, split⟩ := List.exists_cons_of_ne_nil fun none =>
    written (String.toList_eq_nil_iff.mp none)
  simp [Path.isAbsolute, Path.extended, String.toList_append, split]

/-- A disk that was written to holds the bytes at the place of the path, where no directory
was. -/
theorem write_ok {disk written : Disk} {directory : Location} {path : Path}
    {content : ByteArray} (done : disk.write directory path content = .ok written) :
    ∃ parent name, disk.Place directory path parent name ∧
      disk.get? (parent ++ [name]) ≠ some .directory ∧
      written = disk.put (parent ++ [name]) (.file content) := by
  unfold write at done
  cases located : disk.locateLast directory path with
  | error fault => simp [located, bind, Except.bind] at done
  | ok found =>
    obtain ⟨parent, last⟩ := found
    cases last with
    | none => simp [located, bind, Except.bind] at done
    | some name =>
      simp only [located, bind, Except.bind] at done
      split at done
      · cases done
      · rename_i ordinary
        simp only [Bool.or_eq_true, not_or, Bool.not_eq_true] at ordinary
        cases entered : disk.enter parent name with
        | error fault => simp [entered] at done
        | ok location =>
          obtain ⟨place, rfl⟩ := place_of_locate_last located ordinary.1 ordinary.2 entered
          simp only [entered] at done
          cases standing : disk.get? (parent ++ [name]) with
          | none =>
            simp only [standing, pure, Except.pure] at done
            exact ⟨parent, name, place, by simp [standing], (Except.ok.inj done).symm⟩
          | some item =>
            cases item with
            | directory => simp [standing] at done
            | file old =>
              simp only [standing, pure, Except.pure] at done
              exact ⟨parent, name, place, by simp [standing], (Except.ok.inj done).symm⟩

/-- A file that was moved stood at the place of the one path, and now stands at the place of
the other, where no directory was. -/
theorem rename_ok {disk renamed : Disk} {directory : Location} {source target : Path}
    (done : disk.rename directory source target = .ok renamed) :
    ∃ oldParent oldName newParent newName content,
      disk.Place directory source oldParent oldName ∧
      disk.Place directory target newParent newName ∧
      disk.get? (oldParent ++ [oldName]) = some (.file content) ∧
      disk.get? (newParent ++ [newName]) ≠ some .directory ∧
      renamed =
        (disk.erase (oldParent ++ [oldName])).put (newParent ++ [newName]) (.file content) := by
  unfold rename at done
  cases sourceLocated : disk.locateLast directory source with
  | error fault => simp [sourceLocated, bind, Except.bind] at done
  | ok sourceFound =>
    cases targetLocated : disk.locateLast directory target with
    | error fault => simp [sourceLocated, targetLocated, bind, Except.bind] at done
    | ok targetFound =>
      obtain ⟨oldParent, oldLast⟩ := sourceFound
      obtain ⟨newParent, newLast⟩ := targetFound
      simp only [sourceLocated, targetLocated, bind, Except.bind] at done
      -- Only two names that are no steps, entered from their parents, lead to a move.
      split at done
      · rename_i oldName newName
        split at done
        · cases done
        · rename_i ordinary
          simp only [Bool.or_eq_true, not_or, Bool.not_eq_true] at ordinary
          cases oldEntered : disk.enter oldParent oldName with
          | error fault => simp [oldEntered] at done
          | ok old =>
            cases newEntered : disk.enter newParent newName with
            | error fault => simp [oldEntered, newEntered] at done
            | ok new =>
              simp only [oldEntered, newEntered] at done
              split at done
              · cases done
              · cases done
              · rename_i content standing
                split at done
                · cases done
                · rename_i slashes
                  simp only [Bool.or_eq_true, not_or, Bool.not_eq_true] at slashes
                  obtain ⟨sourcePlace, rfl⟩ :=
                    place_of_locate_last sourceLocated ordinary.1 slashes.1 oldEntered
                  obtain ⟨targetPlace, rfl⟩ :=
                    place_of_locate_last targetLocated ordinary.2 slashes.2 newEntered
                  split at done
                  · cases done
                  · rename_i free
                    exact ⟨oldParent, oldName, newParent, newName, content, sourcePlace,
                      targetPlace, standing, free, (Except.ok.inj done).symm⟩
      · cases done

/-- Moving a file to where no directory is takes no directory away. -/
theorem move_keeps_directories {disk : Disk} {old new : Location} {content : ByteArray}
    (standing : disk.get? old = some (.file content))
    (vacant : disk.get? new ≠ some .directory) :
    disk.KeepsDirectories ((disk.erase old).put new (.file content)) := by
  have erased := erase_keeps_directories disk old (by simp [standing])
  intro location found
  have different : location ≠ new := fun same => vacant (same ▸ found)
  rw [get?_put_of_ne different]
  exact erased location found

/-- What was written to a path is what reading the path finds. -/
theorem read_written {disk written : Disk} {directory : Location} {path : Path}
    {content : ByteArray} (writing : disk.write directory path content = .ok written) :
    written.read directory path = .ok content := by
  obtain ⟨parent, name, place, free, rfl⟩ := write_ok writing
  exact (place.kept (put_keeps_directories _ _ _ free)).read (get?_put_self (by simp) _ _)

/-- What was moved to a path is read there as it was where it came from. -/
theorem read_renamed {disk renamed : Disk} {directory : Location} {source target : Path}
    (moving : disk.rename directory source target = .ok renamed) :
    renamed.read directory target = disk.read directory source := by
  obtain ⟨oldParent, oldName, newParent, newName, moved, old, new, standing, vacant, rfl⟩ :=
    rename_ok moving
  rw [old.read standing]
  exact (new.kept (move_keeps_directories standing vacant)).read (get?_put_self (by simp) _ _)

/-- A file that was written beside a path and then took its place is what reading the path
finds. -/
theorem read_replaced {disk written renamed : Disk} {directory : Location} {aside path : Path}
    {content : ByteArray} (writing : disk.write directory aside content = .ok written)
    (moving : written.rename directory aside path = .ok renamed) :
    renamed.read directory path = .ok content :=
  (read_renamed moving).trans (read_written writing)

/-- Writing beside a path leaves alone what reading the path finds. -/
theorem read_beside {disk written : Disk} {directory : Location} {path : Path}
    {suffix : String} {content found : ByteArray} (free : '/' ∉ suffix.toList)
    (longer : suffix ≠ "")
    (writing : disk.write directory (path.extended suffix) content = .ok written)
    (reading : disk.read directory path = .ok found) :
    written.read directory path = .ok found := by
  obtain ⟨parent, name, place, vacant, rfl⟩ := write_ok writing
  obtain ⟨location, located, standing, plain⟩ := read_ok reading
  have started : ∃ start, startOf directory path = .ok start := by
    cases begun : startOf directory path with
    | error fault => simp [locate, begun, bind, Except.bind] at located
    | ok start => exact ⟨start, rfl⟩
  obtain ⟨⟨start, found_names⟩, begun⟩ := started
  obtain ⟨text, rfl, rfl⟩ := start_ok begun
  obtain ⟨before, last, split, extended⟩ := names_extended path suffix free text plain
  have named : name = last ++ suffix := by
    have ends := place.last
    rw [extended, List.getLast?_concat] at ends
    exact (Option.some.inj ends).symm
  have followed : disk.follow (if path.isAbsolute then [] else directory) before =
      .ok parent := by
    have reached := place.followed
    rwa [extended, List.dropLast_concat, absolute_extended path suffix text] at reached
  have entered : disk.enter parent last = .ok location := by
    simp only [locate, begun, split, bind, Except.bind, follow_append, followed, follow] at located
    cases step : disk.enter parent last with
    | error fault => simp [step] at located
    | ok reached => simpa [step] using located
  have apart : location ≠ parent ++ [name] := by
    intro same
    have own := name_of_enter (same ▸ entered)
    have lengths := congrArg String.length (named.symm.trans own)
    rw [String.length_append] at lengths
    exact longer (String.length_eq_zero_iff.mp (by omega))
  have kept := locate_kept (put_keeps_directories disk _ (.file content) vacant) located
  have still : (disk.put (parent ++ [name]) (.file content)).get? location =
      some (.file found) := by
    rw [get?_put_of_ne apart]
    exact standing
  simp [read, lookup, kept, still, plain, bind, Except.bind, pure, Except.pure]

end Disk

end LastGood
