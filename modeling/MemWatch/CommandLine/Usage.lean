/-
# Usage

The text that explains the command line.
-/

namespace MemWatch

/-- What is shown for a request for help, and when there are no arguments. -/
def usage : String :=
  "
trainer <[/L:]ProcessName|ProcessId> [/V] [/O]
        [[+][#][Type:]Region[=Value]] ...

ProcessName   - Name of the process. Must end in '.exe'.
ProcessId     - ID of the process.
/L            - Launch the process specified. If it is not found in PATH,
                specify the full or relative path to it. If the path
                contains spaces, quote the whole argument including '/L:'.
/O            - Run only once and exit. Default is to loop until the target
                process exits or CTRL+C is hit.
/V            - Verbose diagnostics on stderr.
+             - The region is an offset from the base address of the main
                module.
#             - The region is a pointer to the location that should be read
                or written instead. Repeat for stacked pointers.
Type          - Value type. L=Int64, I=Int32, S=Int16, B=Int8. Defaults to I.
Region        - Memory address to read or write, in hexadecimal.
Value         - The value to write. Prefix with '0x' for hexadecimal, and
                with '-' for negative numbers. A region reference like 'R1'
                writes the current value of that region.

Notes:
- If only the process is given, some information about it is shown and the
  program exits immediately.
- A region without a value is only shown.
- If multiple processes have the given name, the one with the highest
  process ID is used.
- Regions are numbered from 1 in the order they are given. Values written
  through a reference are truncated to the target type, without rounding.

Example:

trainer /L:test.exe +##I:402F #B:85B3E=0x10 +S:10=R1

- Launches 'test.exe'.
- R1 shows the integer at the address pointed to by the pointer at the
  base address + 0x402F.
- R2 writes the byte 16 to the address that 85B3E points to.
- R3 writes the value of R1 as a short to the base address + 0x10.
"

end MemWatch
