/-!
# Signals

Names and numbers of the signals that a kernel can be sent. A number with two names is called by the first.
-/
namespace EvalSession.Signal

def table : List (String × Nat) :=
  [("SIGHUP", 1), ("SIGINT", 2), ("SIGQUIT", 3), ("SIGILL", 4), ("SIGTRAP", 5), ("SIGABRT", 6), ("SIGIOT", 6),
    ("SIGBUS", 7), ("SIGFPE", 8), ("SIGKILL", 9), ("SIGUSR1", 10), ("SIGSEGV", 11), ("SIGUSR2", 12), ("SIGPIPE", 13),
    ("SIGALRM", 14), ("SIGTERM", 15), ("SIGSTKFLT", 16), ("SIGCHLD", 17), ("SIGCLD", 17), ("SIGCONT", 18),
    ("SIGSTOP", 19), ("SIGTSTP", 20), ("SIGTTIN", 21), ("SIGTTOU", 22), ("SIGURG", 23), ("SIGXCPU", 24),
    ("SIGXFSZ", 25), ("SIGVTALRM", 26), ("SIGPROF", 27), ("SIGWINCH", 28), ("SIGIO", 29), ("SIGPOLL", 29),
    ("SIGPWR", 30), ("SIGSYS", 31), ("SIGRTMIN", 34), ("SIGRTMAX", 64)]

def number? (name : String) : Option Nat := (table.find? (·.1 == name)).map (·.2)

def name? (number : Nat) : Option String := (table.find? (·.2 == number)).map (·.1)

end EvalSession.Signal
