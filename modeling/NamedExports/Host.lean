import NamedExports.Disk
import NamedExports.Loading.Process

/-!
# The host

All that a run finds around it: the disk, the environment, programs that can be run, and what the
machine is able to do.
-/

namespace NamedExports

/-- The surroundings of a run. -/
structure Host where
  disk : Disk
  /-- The variables of the environment. -/
  environment : List (String × String)
  /-- The number of processors. -/
  processors : Nat
  /-- The way to run programs. -/
  runner : Runner
  /-- Why so many workers cannot be started, if they cannot. -/
  workerError : Nat → Option String
  /-- Why nothing can be printed, if nothing can. -/
  outputError : Option IoError
  /-- Whether a path spells bytes that are no text.  Such a path can be followed and shown. -/
  isGarbled : Path → Bool := fun _ => false

namespace Host

/-- The value of a variable. -/
def value? (host : Host) (name : String) : Option String :=
  (host.environment.find? (·.1 == name)).map (·.2)

/-- The home directory. -/
def home? (host : Host) : Option Path :=
  ((host.value? "HOME").filter (! ·.isEmpty)).map Path.mk

/-- The directory of configuration files: the one that is set, if its path is absolute, or the usual
one in the home directory. -/
def configDirectory? (host : Host) : Option Path :=
  (((host.value? "XDG_CONFIG_HOME").map Path.mk).filter Path.isAbsolute).or
    (host.home?.map (·.join ".config"))

end Host

end NamedExports
