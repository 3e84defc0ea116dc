import HipRand.Lib.Prog
import HipRand.Lib.System
import HipRand.Lib.Ledger
import HipRand.Basic
import HipRand.HostApi
import HipRand.AmdHost
import HipRand.NvidiaHost
import HipRand.HostContract
import HipRand.HostForward
import HipRand.HostStack
import HipRand.Lib.Handler
import HipRand.CppEngine
import HipRand.CppOwnership
import HipRand.Lib.Hoare
import HipRand.Lib.Strided
import HipRand.PyBasic
import HipRand.PyLoading
import HipRand.PyPaths
import HipRand.PyApi
import HipRand.PyRequests
import HipRand.PyAttributes
import HipRand.PyLayout
import HipRand.PyStreams
import HipRand.PyLifetime
import HipRand.KernelMtgp32
import HipRand.KernelMtgp32Sync
import HipRand.KernelSkipAhead
import HipRand.KernelSobol
import HipRand.Lib.Threads
import HipRand.KernelGrid
import HipRand.CppRange
import HipRand.CppStack
import HipRand.PyAllocation
import HipRand.PyFirstUse
import HipRand.PyErrors
import HipRand.PyStack
import HipRand.CppIsolation
import HipRand.FortranStack
