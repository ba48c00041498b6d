/-!
# Causes of failed system calls

Each cause has its number, its symbolic name, and two wordings: the one of the table of causes,
and the one that programs print. The causes that the calls of a shell and of its stages can meet
have a constructor of their own, every other number is a cause without a wording of its own.
-/

namespace PipeShell

/-- The numbers of the causes with a name of their own. -/
def Errno.named : List Nat :=
  [1, 2, 3, 4, 5, 6, 7, 8, 9, 10, 11, 12, 13, 14, 16, 17, 19, 20, 21, 22, 23, 24, 26, 27, 28, 29,
    30, 32, 36, 38, 39, 40]

/-- Why a system call failed. -/
inductive Errno where
  | eperm
  | enoent
  | esrch
  | eintr
  | eio
  | enxio
  | e2big
  | enoexec
  | ebadf
  | echild
  | eagain
  | enomem
  | eacces
  | efault
  | ebusy
  | eexist
  | enodev
  | enotdir
  | eisdir
  | einval
  | enfile
  | emfile
  | etxtbsy
  | efbig
  | enospc
  | espipe
  | erofs
  | epipe
  | enametoolong
  | enosys
  | enotempty
  | eloop
  /-- Any other cause, by its number. Zero is none: it stands for success. -/
  | other (number : Nat) (unnamed : number ∉ 0 :: Errno.named)
  deriving DecidableEq, Repr

namespace Errno

/-- The causes with a name of their own, by number. -/
def all : List Errno :=
  [eperm, enoent, esrch, eintr, eio, enxio, e2big, enoexec, ebadf, echild, eagain, enomem,
    eacces, efault, ebusy, eexist, enodev, enotdir, eisdir, einval, enfile, emfile, etxtbsy,
    efbig, enospc, espipe, erofs, epipe, enametoolong, enosys, enotempty, eloop]

/-- The number of a cause. -/
def number : Errno → Nat
  | eperm => 1
  | enoent => 2
  | esrch => 3
  | eintr => 4
  | eio => 5
  | enxio => 6
  | e2big => 7
  | enoexec => 8
  | ebadf => 9
  | echild => 10
  | eagain => 11
  | enomem => 12
  | eacces => 13
  | efault => 14
  | ebusy => 16
  | eexist => 17
  | enodev => 19
  | enotdir => 20
  | eisdir => 21
  | einval => 22
  | enfile => 23
  | emfile => 24
  | etxtbsy => 26
  | efbig => 27
  | enospc => 28
  | espipe => 29
  | erofs => 30
  | epipe => 32
  | enametoolong => 36
  | enosys => 38
  | enotempty => 39
  | eloop => 40
  | other n _ => n

/-- The symbolic name. -/
def name : Errno → String
  | eperm => "EPERM"
  | enoent => "ENOENT"
  | esrch => "ESRCH"
  | eintr => "EINTR"
  | eio => "EIO"
  | enxio => "ENXIO"
  | e2big => "E2BIG"
  | enoexec => "ENOEXEC"
  | ebadf => "EBADF"
  | echild => "ECHILD"
  | eagain => "EAGAIN"
  | enomem => "ENOMEM"
  | eacces => "EACCES"
  | efault => "EFAULT"
  | ebusy => "EBUSY"
  | eexist => "EEXIST"
  | enodev => "ENODEV"
  | enotdir => "ENOTDIR"
  | eisdir => "EISDIR"
  | einval => "EINVAL"
  | enfile => "ENFILE"
  | emfile => "EMFILE"
  | etxtbsy => "ETXTBSY"
  | efbig => "EFBIG"
  | enospc => "ENOSPC"
  | espipe => "ESPIPE"
  | erofs => "EROFS"
  | epipe => "EPIPE"
  | enametoolong => "ENAMETOOLONG"
  | enosys => "ENOSYS"
  | enotempty => "ENOTEMPTY"
  | eloop => "ELOOP"
  | other _ _ => "UnknownErrno"

/-- The wording of the table of causes. -/
def description : Errno → String
  | eperm => "Operation not permitted"
  | enoent => "No such file or directory"
  | esrch => "No such process"
  | eintr => "Interrupted system call"
  | eio => "I/O error"
  | enxio => "No such device or address"
  | e2big => "Argument list too long"
  | enoexec => "Exec format error"
  | ebadf => "Bad file number"
  | echild => "No child processes"
  | eagain => "Try again"
  | enomem => "Out of memory"
  | eacces => "Permission denied"
  | efault => "Bad address"
  | ebusy => "Device or resource busy"
  | eexist => "File exists"
  | enodev => "No such device"
  | enotdir => "Not a directory"
  | eisdir => "Is a directory"
  | einval => "Invalid argument"
  | enfile => "File table overflow"
  | emfile => "Too many open files"
  | etxtbsy => "Text file busy"
  | efbig => "File too large"
  | enospc => "No space left on device"
  | espipe => "Illegal seek"
  | erofs => "Read-only file system"
  | epipe => "Broken pipe"
  | enametoolong => "File name too long"
  | enosys => "Function not implemented"
  | enotempty => "Directory not empty"
  | eloop => "Too many symbolic links encountered"
  | other _ _ => "Unknown errno"

/-- The wording that programs print. -/
def text : Errno → String
  | eio => "Input/output error"
  | ebadf => "Bad file descriptor"
  | eagain => "Resource temporarily unavailable"
  | enomem => "Cannot allocate memory"
  | enfile => "Too many open files in system"
  | eloop => "Too many levels of symbolic links"
  | other n _ => s!"Unknown error {n}"
  | e => e.description

/-- Name and description of a cause. -/
def message (e : Errno) : String :=
  s!"{e.name}: {e.description}"

/-- The wording of a failed access to a file or a terminal. -/
def ioMessage (e : Errno) : String :=
  s!"{e.text} (os error {e.number})"

/-- The cause with a number, if it is the number of a cause. -/
def ofNumber? (n : Nat) : Option Errno :=
  if unnamed : n ∉ 0 :: named then some (other n unnamed) else all.find? fun e => e.number == n

/-- A cause is found by its number. -/
theorem ofNumber?_number (e : Errno) : ofNumber? e.number = some e := by
  cases e with
  | other n unnamed => exact dif_pos unnamed
  | _ => rfl

end Errno

end PipeShell
