import EventSchema.Proofs.Runs

set_option autoImplicit false

namespace EventSchema.Disk

open FileTree CommandLine.Plan

variable {t : FileTree} {o : OutputFolders} {files : List Artifact}

section TooLong

end TooLong

end EventSchema.Disk
