import Titling.Message.Recorder
import Titling.Title.Pass

/-! Telling of the deprecated token, once over all titles that are made. -/

namespace Titling.Title

open Titling.Message

/-- What a warning answers when nothing gives cause for it. -/
def silent : Latch.Warning :=
  .ok (false, [])

/-- Warns of the deprecated token, in whatever way, if there is notice of it. -/
def announceBy {α : Type} (warn : String → Arguments → α) (quiet : α) (notices : List Notice) : α :=
  if .deprecatedToken ∈ notices then warn Catalog.deprecatedToken [] else quiet

/-- Warns of the deprecated token if there is notice of it for the first time. -/
def announce (latch : Latch) (bus : Bus) (notices : List Notice) : Latch.Warning × Latch :=
  announceBy (latch.warn bus) (silent, latch) notices

/-- Records the warning of the deprecated token if there is notice of it for the first time. -/
def announceTo (recorder : Recorder) (latch : Latch) (notices : List Notice) :
    Except SendError (Bool × Recorder) × Latch :=
  announceBy (recorder.warn latch) (.ok (false, recorder), latch) notices

end Titling.Title
