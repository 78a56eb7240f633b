import WalletCore.CommandLine.Task

/-! # Files that hold texts

Nothing is known about the monad in which files are read and written. A file holds a text where
some steps succeed if the next that is read from it is that text (`FileAccess.Holds`), and an access
reads back if every file holds what was written to it (`FileAccess.ReadsBack`). A task that reads a
file that holds a text goes on with this text, and the file that a task wrote holds what it wrote.
-/
namespace WalletCore.CommandLine

variable {m : Type → Type} [Monad m] {ε α β : Type}

namespace FileAccess

/-- Whether a file holds a text where some steps succeed: what is read from it next is the text,
whatever else is done to read it. -/
def Holds (files : FileAccess m) (steps : ExceptT ε m α) (path text : String) : Prop :=
  (do
    let _ ← steps
    liftM (files.read path)) =
  (do
    let _ ← steps
    let _ ← liftM (files.read path)
    pure (.ok text.toUTF8) : ExceptT ε m (Except FileFault ByteArray))

/-- Whether every file holds what was written to it. -/
def ReadsBack (files : FileAccess m) : Prop :=
  ∀ path text, files.Holds (ExceptT.mk (files.write path text)) path text

end FileAccess

section Wording

variable [LawfulMonad m] {δ : Type} (wording : ε → δ)

/-- The failures of steps are worded as those of the first and those of the others. -/
theorem adapt_bind (steps : ExceptT ε m α) (next : α → ExceptT ε m β) :
    (steps >>= next).adapt wording =
      steps.adapt wording >>= fun result => (next result).adapt wording := by
  apply ExceptT.ext
  simp only [ExceptT.run_bind, ExceptT.run_adapt, bind_map_left, map_bind]
  refine bind_congr fun result => ?_
  cases result with
  | error failure =>
    rw [map_pure]
    rfl
  | ok value => rfl

/-- A step that cannot fail needs no wording. -/
theorem adapt_liftM (step : m α) :
    (liftM step : ExceptT ε m α).adapt wording = liftM step := by
  apply ExceptT.ext
  rw [ExceptT.run_adapt, ExceptT.run_liftM, ExceptT.run_liftM, Functor.map_map]
  rfl

/-- A result needs no wording. -/
theorem adapt_pure (result : α) :
    (pure result : ExceptT ε m α).adapt wording = pure result := by
  apply ExceptT.ext
  rw [ExceptT.run_adapt, ExceptT.run_pure, map_pure]
  rfl

end Wording

namespace FileAccess

variable [LawfulMonad m] {files : FileAccess m} {path text : String}

namespace Holds

/-- Whatever follows goes on with the text. -/
theorem followed {steps : ExceptT ε m α} (holds : files.Holds steps path text)
    (next : Except FileFault ByteArray → ExceptT ε m β) :
    (do
      let _ ← steps
      let found ← liftM (files.read path)
      next found) =
    (do
      let _ ← steps
      let _ ← liftM (files.read path)
      next (.ok text.toUTF8)) := by
  have same := congrArg (· >>= next) holds
  simpa only [bind_assoc, pure_bind] using same

/-- What the last of some steps leaves they all leave. -/
theorem bind {steps : ExceptT ε m α} {last : α → ExceptT ε m β}
    (holds : ∀ result, files.Holds (last result) path text) :
    files.Holds (steps >>= last) path text := by
  unfold Holds
  rw [bind_assoc, bind_assoc]
  exact bind_congr holds

/-- A result that is given at the end changes no file. -/
theorem bind_pure {steps : ExceptT ε m α} (holds : files.Holds steps path text)
    (result : α → β) : files.Holds (steps >>= fun found => pure (result found)) path text := by
  unfold Holds
  simp only [bind_assoc, pure_bind]
  exact holds

/-- A file holds the same whatever is said about the failure of the steps. -/
theorem adapt {δ : Type} {steps : ExceptT ε m α} (holds : files.Holds steps path text)
    (wording : ε → δ) : files.Holds (steps.adapt wording) path text := by
  have same := congrArg (ExceptT.adapt wording) holds
  simp only [adapt_bind, adapt_liftM, adapt_pure] at same
  exact same

end Holds

/-- A text that was written is held by the file. -/
theorem ReadsBack.holds_writeContent (readsBack : files.ReadsBack) (content : Content)
    (path text : String) : files.Holds (writeContent files content path text) path text := by
  have worded : writeContent files content path text =
      (ExceptT.mk (files.write path text)).adapt (.unwritable content path) := by
    apply ExceptT.ext
    rw [ExceptT.run_adapt, ExceptT.run_mk, writeContent, ExceptT.run_bind, ExceptT.run_liftM,
      bind_map_left]
    exact bind_pure_comp _ _
  rw [worded]
  exact (readsBack path text).adapt _

/-- A task that reads a file goes on with the text that the file holds. -/
theorem Holds.followed_readContent {steps : ExceptT Failure m α}
    (holds : files.Holds steps path text) (content : Content)
    (next : String → ExceptT Failure m β) :
    (do
      let _ ← steps
      let found ← readContent files content path
      next found) =
    (do
      let _ ← steps
      let _ ← liftM (files.read path)
      next text) := by
  have decoded : String.fromUTF8? text.toUTF8 = some text := dif_pos text.isValidUTF8
  simp only [readContent, readText, liftM_bind, bind_assoc]
  rw [holds.followed]
  refine bind_congr fun _ => bind_congr fun _ => ?_
  simp only [decoded, Option.elim_some, liftM_pure, pure_bind]
  exact pure_bind text next

end FileAccess

end WalletCore.CommandLine
