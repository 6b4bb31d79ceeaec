import Chip8.Main
import Chip8.Monitor
import Chip8.Parameters
import Chip8.Proofs.Decoding
import Chip8.Proofs.Grammar
import Chip8.Proofs.Effect
import Chip8.Proofs.Loading
import Chip8.Proofs.Reachable
import Chip8.Proofs.Runs
import Chip8.Proofs.Calls
import Chip8.Proofs.Iterations
import Chip8.Proofs.Coherence
import Chip8.Proofs.Refinement
import Chip8.Proofs.Changes
import Chip8.Proofs.Failure
import Chip8.Proofs.Dependence
import Chip8.Proofs.Lockstep
import Chip8.Proofs.Unread
import Chip8.Proofs.Locality
import Chip8.Proofs.HeldKeys
import Chip8.Proofs.Timers
import Chip8.Proofs.KeyReads
import Chip8.Proofs.RandomStream
import Chip8.Proofs.BoundedList
import Chip8.Proofs.Glyphs
import Chip8.Proofs.KeyTracking
import Chip8.Proofs.Parity
import Chip8.Proofs.Drawing
import Chip8.Proofs.Blit
import Chip8.Proofs.KeyWait
import Chip8.Proofs.Wrapping
import Chip8.Proofs.Successor
import Chip8.Proofs.Arithmetic
import Chip8.Proofs.RegisterAlgebra
import Chip8.Proofs.DecimalDigits
import Chip8.Proofs.TwosComplement
import Chip8.Proofs.Rendering
import Chip8.Proofs.TraceLines
import Chip8.Proofs.Thresholds
import Chip8.Proofs.RunLog
