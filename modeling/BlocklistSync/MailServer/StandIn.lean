import BlocklistSync.MailServer.Report
import BlocklistSync.Maps.Kind

/-! A mail server whose answers are set beforehand. It counts how often it was asked, and notes
which maps it was given. -/
namespace BlocklistSync

structure StandInServer where
  patternSupport : Bool
  report : ApplyReport
  probes : Nat
  applies : List MapPaths
  deriving Repr, DecidableEq

namespace StandInServer

def new (patternSupport : Bool) : StandInServer := ⟨patternSupport, ⟨[], .done⟩, 0, []⟩

def probe (s : StandInServer) : StandInServer × Bool :=
  ({ s with probes := s.probes + 1 }, s.patternSupport)

def apply (s : StandInServer) (paths : MapPaths) : StandInServer × ApplyReport :=
  ({ s with applies := s.applies ++ [paths] }, s.report)

end StandInServer
end BlocklistSync
