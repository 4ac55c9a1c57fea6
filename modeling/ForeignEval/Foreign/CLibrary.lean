/-!
# The C library

Every module is linked with the C library, so that a symbol which a module does not export may still
be found behind it: it is the same one for all modules.
-/

namespace ForeignEval.Foreign.CLibrary

/-- The file of the library. -/
def file : String := "libc.so.6"

/-- The library's symbols, as far as they are in common use. -/
def symbols : List String := [
  "__cxa_atexit", "__cxa_finalize", "__environ", "__errno_location", "__libc_start_main",
  "__stack_chk_fail", "_exit", "abort", "abs", "access", "alarm", "aligned_alloc", "asctime",
  "atof", "atoi", "atol", "atoll", "bind", "bsearch", "calloc", "chdir", "chmod", "chown",
  "clearerr", "clock", "clock_gettime", "close", "closedir", "connect", "creat", "ctime",
  "difftime", "div", "dladdr", "dlclose", "dlerror", "dlopen", "dlsym", "dup", "dup2", "environ",
  "errno", "execl", "execv", "execve", "execvp", "exit", "fchmod", "fclose", "fcntl", "fdopen",
  "feof", "ferror", "fflush", "fgetc", "fgetpos", "fgets", "fileno", "fopen", "fork", "fprintf",
  "fputc", "fputs", "fread", "free", "freopen", "fscanf", "fseek", "fsetpos", "fstat", "fsync",
  "ftell", "ftruncate", "fwrite", "getc", "getchar", "getcwd", "getegid", "getenv", "geteuid",
  "getgid", "gethostname", "getline", "getopt", "getpagesize", "getpid", "getppid", "getpwnam",
  "getpwuid", "getpwuid_r", "getrandom", "gettimeofday", "getuid", "gmtime",
  "gnu_get_libc_version", "htonl", "htons", "inet_ntop", "inet_pton", "ioctl", "isalnum",
  "isalpha", "isatty", "isblank", "iscntrl", "isdigit", "isgraph", "islower", "isprint",
  "ispunct", "isspace", "isupper", "isxdigit", "kill", "labs", "ldiv", "link", "listen", "llabs",
  "lldiv", "localeconv", "localtime", "longjmp", "lseek", "lstat", "madvise", "malloc", "mblen",
  "mbrlen", "mbrtowc", "mbsrtowcs", "mbstowcs", "mbtowc", "memchr", "memcmp", "memcpy", "memmove",
  "memrchr", "memset", "mkdir", "mkdtemp", "mkstemp", "mktime", "mmap", "mprotect", "munmap",
  "nanosleep", "ntohl", "ntohs", "open", "openat", "opendir", "optarg", "pause", "perror", "pipe",
  "poll", "popen", "posix_memalign", "pread", "printf", "pthread_create", "pthread_join",
  "pthread_key_create", "pthread_mutex_init", "pthread_mutex_lock", "pthread_mutex_unlock",
  "pthread_self", "putc", "putchar", "putenv", "puts", "pwrite", "qsort", "quick_exit", "raise",
  "rand", "read", "readdir", "readlink", "realloc", "realpath", "recv", "regcomp", "regexec",
  "remove", "rename", "rewind", "rmdir", "scanf", "sched_yield", "select", "send", "sendto",
  "setbuf", "setenv", "setjmp", "setlocale", "setsockopt", "setvbuf", "shutdown", "sigaction",
  "sigaltstack", "signal", "sleep", "snprintf", "socket", "sprintf", "srand", "sscanf", "stat",
  "stderr", "stdin", "stdout", "strcasecmp", "strcat", "strchr", "strcmp", "strcoll", "strcpy",
  "strcspn", "strdup", "strerror", "strerror_r", "strftime", "strlen", "strncasecmp", "strncat",
  "strncmp", "strncpy", "strndup", "strnlen", "strpbrk", "strrchr", "strsep", "strsignal",
  "strspn", "strstr", "strtod", "strtof", "strtok", "strtok_r", "strtol", "strtold", "strtoll",
  "strtoul", "strtoull", "strxfrm", "symlink", "sync", "syscall", "sysconf", "system",
  "tcgetattr", "time", "tmpfile", "tmpnam", "tolower", "toupper", "truncate", "umask", "uname",
  "ungetc", "unlink", "unsetenv", "usleep", "utime", "vfprintf", "vprintf", "vscanf", "vsnprintf",
  "vsprintf", "vsscanf", "waitpid", "wcscat", "wcschr", "wcscmp", "wcscpy", "wcslen", "wcsncmp",
  "wcsncpy", "wcsrchr", "wcsstr", "wcstol", "wctomb", "wmemchr", "wmemcmp", "wmemcpy", "wmemmove",
  "wmemset", "write", "writev"]

end ForeignEval.Foreign.CLibrary
