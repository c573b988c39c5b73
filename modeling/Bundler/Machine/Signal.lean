/-! Signals by name and number. -/

namespace Bundler.Machine.Signal

def hangUp : Nat := 1
def interrupt : Nat := 2
def quit : Nat := 3
def killed : Nat := 9
def brokenPipe : Nat := 13
def alarm : Nat := 14
def terminate : Nat := 15
def child : Nat := 17
def proceed : Nat := 18
def stop : Nat := 19

def names : List (String × Nat) :=
  [("HUP", 1), ("INT", 2), ("QUIT", 3), ("ILL", 4), ("TRAP", 5), ("ABRT", 6), ("BUS", 7),
    ("FPE", 8), ("KILL", 9), ("USR1", 10), ("SEGV", 11), ("USR2", 12), ("PIPE", 13), ("ALRM", 14),
    ("TERM", 15), ("CHLD", 17), ("CONT", 18), ("STOP", 19), ("TSTP", 20),
    ("TTIN", 21), ("TTOU", 22), ("URG", 23), ("XCPU", 24), ("XFSZ", 25), ("VTALRM", 26),
    ("PROF", 27), ("WINCH", 28), ("IO", 29), ("PWR", 30), ("SYS", 31)]

def last : Nat :=
  64

def name (signal : Nat) : String :=
  match names.find? (·.2 = signal) with
  | some (name, _) => name
  | none =>
      if signal = 34 then "RTMIN"
      else if signal = 64 then "RTMAX"
      else if 34 < signal && signal < 50 then "RTMIN+" ++ toString (signal - 34)
      else if 50 ≤ signal && signal < 64 then "RTMAX-" ++ toString (64 - signal)
      else toString signal

inductive Effect
  | ends
  | ignored
  | stops
  | continues
  deriving DecidableEq, Repr

def effect (signal : Nat) : Effect :=
  if signal = child || signal = 23 || signal = 28 then .ignored
  else if signal = proceed then .continues
  else if 19 ≤ signal && signal ≤ 22 then .stops
  else .ends

def description (signal : Nat) : String :=
  (["Hangup", "Interrupt", "Quit", "Illegal instruction", "Trace/breakpoint trap", "Aborted",
    "Bus error", "Floating point exception", "Killed", "User defined signal 1",
    "Segmentation fault", "User defined signal 2", "Broken pipe", "Alarm clock", "Terminated",
    "Stack fault", "Child exited", "Continued", "Stopped (signal)", "Stopped",
    "Stopped (tty input)", "Stopped (tty output)", "Urgent I/O condition",
    "CPU time limit exceeded", "File size limit exceeded", "Virtual timer expired",
    "Profiling timer expired", "Window changed", "I/O possible", "Power failure",
    "Bad system call"][signal - 1]?).getD ("Signal " ++ toString signal)

end Bundler.Machine.Signal
