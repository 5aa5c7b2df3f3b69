import LastGood.Proofs.Session.Clients

/-!
# Commands behind several checksums

A command can be wrapped more than once, and then expects several checksums. It exposes one
of them, that of the outermost wrapper, and this one decides. If it is another than that of the
snapshot which a locked write starts from, the write is a conflict and nothing is done. If it is
the same, the command is run as if it had not been wrapped at all, whatever the checksums behind
the outermost one are.

So the checksums count together as long as they do not disagree behind an outermost one that
agrees with the snapshot.
-/

namespace LastGood

namespace Command

variable {C : Type}

/-- The same edit, with no checksum expected. -/
def unguarded (command : Command C) : Command C := { command with expected := none }

/-- Wrapping a command once more goes around what it is wrapped in already. -/
theorem expecting_all_snoc (checksums : List String) (outermost : String)
    (command : Command C) :
    command.expectingAll (checksums ++ [outermost]) =
      (command.expectingAll checksums).expecting outermost := by
  simp [expectingAll]

/-- Of all wrappers the outermost one is exposed. -/
theorem expected_expecting_all {checksums : List String} (wrapped : checksums ≠ [])
    (command : Command C) :
    (command.expectingAll checksums).expected = some (checksums.getLast wrapped) := by
  have split := List.dropLast_concat_getLast wrapped
  calc
    (command.expectingAll checksums).expected =
        (command.expectingAll (checksums.dropLast ++ [checksums.getLast wrapped])).expected := by
      rw [split]
    _ = some (checksums.getLast wrapped) := by
      rw [expecting_all_snoc, expected_expecting]

/-- However often a command is wrapped, it is the same edit. -/
theorem update_expecting_all (checksums : List String) (command : Command C) :
    (command.expectingAll checksums).update = command.update := by
  induction checksums using List.reverseRecOn with
  | nil => rfl
  | append_singleton checksums outermost ih => rw [expecting_all_snoc, update_expecting, ih]

end Command

namespace Session

/-- A locked write that expects the checksum of the snapshot which it starts from is the write of
the same edit with no checksum expected. -/
theorem write_unguarded {session : Session} {base : Snapshot Config} {command : Command Config}
    (starts : session.StartsFrom base) (expects : command.expected = some base.checksum) :
    session.perform (.writeWithLock command) =
      session.perform (.writeWithLock command.unguarded) := by
  have guarded : session.store.writeWithLock command session.cache.state.snapshot =
      session.store.applyTo command base := by
    refine FileStore.lock_of_admitted starts fun expected other => ?_
    exact Option.some.inj (other.symm.trans expects)
  have unguarded : session.store.writeWithLock command.unguarded session.cache.state.snapshot =
      session.store.applyTo command.unguarded base :=
    FileStore.lock_of_admitted starts nofun
  refine write_congr (guarded.trans (Eq.trans ?_ unguarded.symm))
  exact FileStore.apply_congr session.store rfl

/-- Checksums count together unless they disagree behind an outermost one that agrees. Let a
command be wrapped in checksums, one at least, and let a locked write start from a snapshot,
an installed one or that of the file.

If every checksum is that of the snapshot, so is the outermost one, and the command is run as if it
were not wrapped. If one of them is another, and the outermost one is not that of the snapshot, the
write is a conflict with a checksum that differs, the session stays as it was with its file and its
cache, and any other command would have fared the same: none was run.

The outermost checksum alone decides: if it is that of the snapshot, the command is run as if it
were not wrapped, even where another one differs. -/
theorem outermost_guard_decides (session : Session) (base : Snapshot Config)
    (starts : session.StartsFrom base) (checksums : List String) (wrapped : checksums ≠ [])
    (command : Command Config) :
    let write := fun command : Command Config =>
      session.perform (.writeWithLock (command.expectingAll checksums))
    let unwrapped := session.perform (.writeWithLock command.unguarded)
    ((∀ checksum ∈ checksums, checksum = base.checksum) → write command = unwrapped) ∧
    ((∃ checksum ∈ checksums, checksum ≠ base.checksum) →
      checksums.getLast wrapped ≠ base.checksum →
      ∃ expected ∈ checksums, expected ≠ base.checksum ∧
        (write command).1 = .failed (.conflict expected base.checksum) ∧
        (write command).2.1 = session ∧
        ∀ other, write other = write command) ∧
    (checksums.getLast wrapped = base.checksum → write command = unwrapped) := by
  intro write unwrapped
  have agreed : checksums.getLast wrapped = base.checksum → write command = unwrapped := by
    intro current
    have expects := Command.expected_expecting_all wrapped command
    rw [current] at expects
    refine (write_unguarded starts expects).trans ?_
    simp only [unwrapped, Command.unguarded, Command.update_expecting_all]
  refine ⟨?all, ?stale, agreed⟩
  case all =>
    intro same
    exact agreed (same _ (List.getLast_mem wrapped))
  case stale =>
    rintro - stale
    have conflicts : ∀ other, write other = _ := fun other =>
      write_conflicts starts (Command.expected_expecting_all wrapped other) stale
    refine ⟨_, List.getLast_mem wrapped, stale, ?_, ?_, ?_⟩
    · rw [conflicts command]
    · rw [conflicts command]
    · intro other
      rw [conflicts other, conflicts command]

/-- Two checksums around a command on an empty file that was never loaded, neither of them that of
the file. -/
theorem outermost_guard_decides_empty_file :
    let session := ofPath Machine.ofEmptyFile ⟨"config.yaml"⟩
    let guarded := (Command.setServerPort 9000).expectingAll ["older", "old"]
    session.StartsFrom ⟨{}, {}, checksum ""⟩ ∧
      (∃ expected ∈ ["older", "old"], expected ≠ checksum "" ∧
        (session.perform (.writeWithLock guarded)).1 =
          .failed (.conflict expected (checksum ""))) := by
  intro session guarded
  have starts : session.StartsFrom ⟨{}, {}, checksum ""⟩ :=
    .inr ⟨rfl, "", mirrors_empty_file.held, FileStore.parse_ok_iff.mp mirrors_empty_file.parsed⟩
  have older : "older" ≠ checksum "" := by decide +kernel
  have old : "old" ≠ checksum "" := by decide +kernel
  obtain ⟨expected, member, stale, conflict, _⟩ :=
    (outermost_guard_decides session ⟨{}, {}, checksum ""⟩ starts ["older", "old"] (by decide)
      (Command.setServerPort 9000)).2.1 ⟨"older", by decide, older⟩ old
  exact ⟨starts, expected, member, stale, conflict⟩

/-- A command is run though it is wrapped in a checksum that differs from that of the installed
snapshot: the checksum around that one agrees. The configuration is changed, and so is the
file. -/
theorem inner_guard_passed_over :
    let session := (ofPath Machine.ofEmptyFile ⟨"config.yaml"⟩).course fileStore
      [.operation .reload]
    let write := session.perform
      (.writeWithLock ((Command.setServerPort 9000).expectingAll ["old", checksum ""]))
    session.StartsFrom ⟨{}, {}, checksum ""⟩ ∧ "old" ≠ checksum "" ∧
      write.1 = .ok (.saved .updated) ∧ write.2.1.store.readText = .ok otherPort.toYaml := by
  have expects : ((Command.setServerPort 9000).expectingAll ["old", checksum ""]).expected =
      some (checksum "") := Command.expected_expecting_all (by simp) _
  obtain ⟨updated, snapshot, mirrors⟩ := port_changed (Command.update_expecting_all _ _) expects
  intro session write
  exact ⟨starts_from_installed rfl, by decide +kernel, updated, mirrors.held⟩

end Session

end LastGood
