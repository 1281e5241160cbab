import CInspect.Includes.Standard
import CInspect.Includes.Mathematics
import CInspect.Includes.WideCharacters
import CInspect.Includes.Posix
import CInspect.Includes.Configuration
import CInspect.Includes.Internal
import CInspect.Includes.InternalTypes
import CInspect.Includes.Compiler
import CInspect.Includes.Threads
import CInspect.Includes.Network
import CInspect.Includes.Kernel
import CInspect.Includes.Utilities
import CInspect.Includes.SystemCalls
import CInspect.Includes.SystemInternal
import CInspect.Includes.ObjectFiles
import CInspect.Source.Workspace
/-!
All system headers, by full path: those of the C library and the
operating system under `/usr/include`, and the compiler's own.
-/

namespace CInspect.Includes

/-- Every system header with its text. -/
def systemHeaders : List (String × String) :=
  standardHeaders ++ mathematicsHeaders ++ wideCharacterHeaders ++ posixHeaders ++
    configurationHeaders ++ internalHeaders ++ internalTypeHeaders ++ compilerHeaders ++
    threadHeaders ++ networkHeaders ++ kernelHeaders ++ utilityHeaders ++ systemCallHeaders ++
    systemInternalHeaders ++ objectFileHeaders

/-- Every system header, indexed by path. -/
def systemHeaderTree : Source.HeaderTree :=
  .ofList systemHeaders

end CInspect.Includes
