import PlatformLauncher.Number.Numeral

/-!
Faults that the surroundings report: codes of the operating system, octets that are no text, a null
in a name, an output that takes no more.
-/
namespace PlatformLauncher

/-- What the operating system says of its codes, one line a code from 0 on. -/
def systemTexts : List Text := Text.pieces '\n' "Success
Operation not permitted
No such file or directory
No such process
Interrupted system call
Input/output error
No such device or address
Argument list too long
Exec format error
Bad file descriptor
No child processes
Resource temporarily unavailable
Cannot allocate memory
Permission denied
Bad address
Block device required
Device or resource busy
File exists
Invalid cross-device link
No such device
Not a directory
Is a directory
Invalid argument
Too many open files in system
Too many open files
Inappropriate ioctl for device
Text file busy
File too large
No space left on device
Illegal seek
Read-only file system
Too many links
Broken pipe
Numerical argument out of domain
Numerical result out of range
Resource deadlock avoided
File name too long
No locks available
Function not implemented
Directory not empty
Too many levels of symbolic links
Unknown error 41
No message of desired type
Identifier removed
Channel number out of range
Level 2 not synchronized
Level 3 halted
Level 3 reset
Link number out of range
Protocol driver not attached
No CSI structure available
Level 2 halted
Invalid exchange
Invalid request descriptor
Exchange full
No anode
Invalid request code
Invalid slot
Unknown error 58
Bad font file format
Device not a stream
No data available
Timer expired
Out of streams resources
Machine is not on the network
Package not installed
Object is remote
Link has been severed
Advertise error
Srmount error
Communication error on send
Protocol error
Multihop attempted
RFS specific error
Bad message
Value too large for defined data type
Name not unique on network
File descriptor in bad state
Remote address changed
Can not access a needed shared library
Accessing a corrupted shared library
.lib section in a.out corrupted
Attempting to link in too many shared libraries
Cannot exec a shared library directly
Invalid or incomplete multibyte or wide character
Interrupted system call should be restarted
Streams pipe error
Too many users
Socket operation on non-socket
Destination address required
Message too long
Protocol wrong type for socket
Protocol not available
Protocol not supported
Socket type not supported
Operation not supported
Protocol family not supported
Address family not supported by protocol
Address already in use
Cannot assign requested address
Network is down
Network is unreachable
Network dropped connection on reset
Software caused connection abort
Connection reset by peer
No buffer space available
Transport endpoint is already connected
Transport endpoint is not connected
Cannot send after transport endpoint shutdown
Too many references: cannot splice
Connection timed out
Connection refused
Host is down
No route to host
Operation already in progress
Operation now in progress
Stale file handle
Structure needs cleaning
Not a XENIX named type file
No XENIX semaphores available
Is a named type file
Remote I/O error
Disk quota exceeded
No medium found
Wrong medium type
Operation canceled
Required key not available
Key has expired
Key has been revoked
Key was rejected by service
Owner died
State not recoverable
Operation not possible due to RF-kill
Memory page has hardware error".toList

inductive Fault where
  | system (code : Nat)
  | notUtf8
  | nullInName
  | nullInCommand
  | outputFull
deriving DecidableEq, Repr

namespace Fault

def notPermitted : Fault := .system 1
def notFound : Fault := .system 2
def denied : Fault := .system 13
def exists_ : Fault := .system 17
def notDirectory : Fault := .system 20
def isDirectory : Fault := .system 21
def nameTooLong : Fault := .system 36
def tooManyLinks : Fault := .system 40

def systemText (code : Nat) : Text :=
  match systemTexts[code]? with
  | some text => text
  | none => "Unknown error ".toList ++ Numeral.ofNat code

def message : Fault → Text
  | system code =>
    systemText code ++ " (os error ".toList ++ Numeral.ofNat code ++ [')']
  | notUtf8 => "stream did not contain valid UTF-8".toList
  | nullInName => "file name contained an unexpected NUL byte".toList
  | nullInCommand => "nul byte found in provided data".toList
  | outputFull => "output full".toList

def reason : Fault → Text
  | system code => systemText code
  | f => f.message

def isRefusal (f : Fault) : Bool := f == denied || f == notPermitted

end Fault

end PlatformLauncher
