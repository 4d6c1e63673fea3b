import NotebookHost.Http.Message
import NotebookHost.Http.Target

namespace NotebookHost.Http

structure Request where
  method : String
  target : Target
  headers : Headers
  body : List UInt8
  deriving DecidableEq, Repr

end NotebookHost.Http
