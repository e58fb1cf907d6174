/-!
# Install options

An option word selects the fault sources to hook: bit 0 the exceptions of the kernel, bit 1 the
signal `SIGABRT`.  Other bits say nothing.  Only the mac platform tells the two apart.
-/

namespace CrashDump

/-- The fault sources to hook. -/
structure InstallOptions where
  /-- The exceptions of the kernel. -/
  exceptionHandler : Bool
  /-- The signal `SIGABRT`. -/
  signalHandler : Bool
deriving DecidableEq, Repr

namespace InstallOptions

/-- The selection in an option word. -/
def ofWord (word : UInt32) : InstallOptions where
  exceptionHandler := word &&& 1 ≠ 0
  signalHandler := word &&& 2 ≠ 0

/-- The option word of a selection. -/
def toWord (options : InstallOptions) : UInt32 :=
  (if options.exceptionHandler then 1 else 0) ||| (if options.signalHandler then 2 else 0)

theorem ofWord_toWord (options : InstallOptions) : ofWord options.toWord = options := by
  rcases options with ⟨_ | _, _ | _⟩ <;> rfl

/-- Nothing is selected. -/
def isEmpty (options : InstallOptions) : Bool :=
  !options.exceptionHandler && !options.signalHandler

/-- Everything is selected. -/
def isAll (options : InstallOptions) : Bool :=
  options.exceptionHandler && options.signalHandler

/-- The names of what is selected. -/
def names (options : InstallOptions) : List String :=
  (if options.exceptionHandler then ["EXCEPTION_HANDLER"] else []) ++
    (if options.signalHandler then ["SIGNAL_HANDLER"] else [])

/-- The selection by name. -/
def debugText (options : InstallOptions) : String :=
  match options.names with
  | [] => "InstallOptions(0x0)"
  | names => "InstallOptions(" ++ " | ".intercalate names ++ ")"

end InstallOptions

/-- The selections that the typed interface offers. -/
inductive HandlerChoice where
  /-- Nothing is hooked, so that no crash is seen. -/
  | noHandlers
  | exceptionHandler
  | signalHandler
  | bothHandlers
deriving DecidableEq, Repr

namespace HandlerChoice

/-- The option word of a choice. -/
def word : HandlerChoice → UInt32
  | noHandlers => 0
  | exceptionHandler => 1
  | signalHandler => 2
  | bothHandlers => 3

/-- The fault sources of a choice. -/
def options (choice : HandlerChoice) : InstallOptions := .ofWord choice.word

end HandlerChoice

end CrashDump
