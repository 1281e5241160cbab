import CInspect.Text.Packed
/-!
The internal headers that the further system interface headers include: constants and structures for one machine.

Each entry is the full path of a header and its text, reduced to the
declarations and macros that programs can see, each on the line it
stands on in the header.
-/

namespace CInspect.Includes

/-- The internal headers of the further system interface headers. -/
def systemInternalHeaders : List (String × String) := Text.unpackEntries <|
  String.join [
    "/usr/include/x86_64-linux-gnu/bits/unistd_ext.h`~2!!#ifndef _UNISTD_H`# error \"Never ~'%- <~1!u> directly; use <~&!A.h> instead.\"`#endif~%%7~%%6_USE_GNU~+%Sex",
    "tern __pid_t gettid (void) __THROW;~+!ihas_~'%i`# i~/!6 (\"~%')/close_range.h\")`# ~)&H~5!F`# ~&&'~+&.~%'CCLOSE_RANGE_UNSHARE`# define~4!A (1U << 1)~=!rCLOEXEC~",
    "6!r~'!A~(!r2~+!r~&!+\x00~D*&dirent~C*&DIRENT~A*&~,!u~1*&~&!A~6*&__BEGIN_DECLS~6*5~)*.ssize~&*0dents64 (int __fd, void *__buffer, ~'!Q__length)` ~(*] __nonnull (",
    "(2));~+%aEND~'%]~F'plfcn~?'kLFCN~2'j~%'A~,!k~,'a~)(/~)!?~2'd`#~'*FRTLD_LAZY\t0x00001~.!=NOW~'!<2~(!<\t~%!<BINDING_MASK   0x3~0!_LOAD~'!c4~.!?DEEPBIN~(!B8~&&r~,!",
    "FGLOBAL~%!D100~2!DLOCAL\t0~0!:NODELETE\t0x01000~=0P~)-MDL_CALL_FCT(fctp, args) \\`  (_dl_mcount_wrapper_check (~%1% *) ~%!Y)), (*~'!.~&!h~1+z~(+g~%!_~:%(~(+fsel",
    "fpc~,23~,+8~M/5epoll~4+A~'+?\t_SYS_EPOLL~<+D~'!n~5+Dsy~+!D~3+Henum`  @`    ~&%9~(1l= 020~%!!~))N~.!E~-!1`  $;~*)|_~'&2PACKED __attribute__ ((__packed__))~G'Sven",
    "tfd~C'UVENTFD~='W~(!r~:'Y~*!F~B'[FD_SEMAPHORE = ~&'Y01,~*']~-!F~-!1~)!i~2(G~.!g~)(F~*!/~)!cNONBLOCK~'%M4~-)/~,!D~,!0~&)-~E(Min~&'M-retur~?3OUCONTEX~B7A~1%!~2=Ic",
    "ont~'7d~3(X~%%D~'0_d __CET__ && (~)!/ 2) != 0~(<xglibc~%=&~)+f (__~(%[_~&%[__~%=&~),JINDIRECT_RETURN~3,M~2!h)`# else~&2Z~M!s~&!js_twice~(!q~'>=lse~*3T~1!t~M1Win",
    "otify~B.'INOTIFY~<.'~)!r~9.'~+!F~A.'IN~=-8~+!C~*!.~(!_~<-5~,!C~+!/~L-3octl-types~>-/~%'aOCT~=5>~-!u~:'coct~85E#~)!Nasm~&!Ns.h>```struct winsize~)(-unsigned shor",
    "t int ws_row;~;!Ccol~<!Cxpixe~=!Fy~)!F~,6VNCC 8~(&!termio~<%|c_iflag~9%7c_o~?!Dc~?!Dl~3!Dchar c_line~6!=cc[NCC];`$;~+?5TIOCM_L~%?0~+BS~&!:DTR~%!;2~/!;RTS~%!;4~/",
    "!;ST~%!:8~0!:~%!m10~/!:C~&!m2~1!;A~%!T4~0!;RNG\t0x08~0!;D~%%/10~1!oD\t~)!x~0!rI\t~)!|~-CcN_TTY\t\t~*!rN_SLIP\t\t~*'CN_MOUSE\t\t~*'=N_PPP\t\t3~,!ZTRIP\t\t~*'JN_A",
    "X25\t\t5~+!5~%!46~+!46PACK\t\t7~,%<ASC\t\t~*(&N_R3964\t\t9~,%OROFIBUS_FDL\t~+(<N_IRDA\t\t1~,&:SMS~%1-\t1~,&=HDLC\t\t1~-&?YNC~%&V1~)&C\tN_HCI\t\t15~K1js~;5G~M1d~",
    "v1]~(&jSIOCADDRT\t0x890B~-!<DEL~(!<C~-!<RTMSG~&!<D~/!tGIFNAME~%!A~+(fSIOCSIFLINK~&!>1~0!ZCONF~&!>2~0!>FLAGS~&!?3~0!y~+!?4~0!]ADDR~&!>5~0![~*!>6~0!ZDST~*!B7~0!_~",
    "-!B8~0!cBRD~*!B9~0!c~-!Ba~1'bETMAS~''Gb~0!c~-!Bc~0!cMETRIC~&!Ad~0!b~,!Ae~2!aM~&!=f~2![~&!=20~1!XTU~&!=1~1!X~(!=2~1&;~(*A2~))C\t~'!>HW~)'=2~1)DENCAP~&!?~1)E~+!?~",
    "1)F~,%!7~0!ASLAV~'%a~1)!~*!?30~0-WMULTI~&!?1~0-Z~+!?~1,EINDEX~&!?~-,E~)!>~,!L~0%dP~*,j3~1'G~,!A~.'HD~+,l36~2(HBROADCA~%8M893~1'LCOUN~'!?8~1/nB~&%'4~1/l~(!<1~1!W",
    "TXQLEN~&!B~1*J~,!A3~-8*~%&GAR~&)j5~.02G~)!;~.'?S~)!;5~0!qR~(!>6~/,Z~*!<~/,Y~*!<2`~22|M~'+Y7~1'1~)!=1`~24TDLC~&*X80~0*w~*!>1~*6r~-!GVPRIVATE \t~%!LF0~2!IPROTO~(!",
    "K0x89E0~G8Jpc-perm~DG5PC~=8K~)!p~:8Mpc~9P8~)Fpipc_perm`@~%e_key~%etkey;~%!4u~%lkuid~&!2g~&lz~(!2~&!Bc~/!Cc~)!Dmode_t mod~%D1~3Dm__seq~9!?pad2~&!qsyscall_ulong~%",
    "%v~&Qzreserved1~G!K2~%EH~H))~C=M~B(|~U(v#~.V.~(Lw~++ZIPC_CREAT\t~&ee~,!;EXCL\t~%P7~-!:NOWAIT\t~&Ok~.!qRMID\t~.!RSET~,E;~%!6TAT\t2~2f|~)T=IPC_INFO\t3~2j<IPC_~'-a",
    "\t((~'+>) 0)~1&m~+,]~I)&~IQ>~B),~BQ9~:)1~'%7BIT~%%8TYPES_H~*dx~/!<\t1~%Xy~('w~&&W__`typedef~'--~%.|id_t;~(YX~(!D~5-_~.!S~Rtemman~&!7~C'wMMA~=px~,!s~9'zmman~;2,~",
    ",4WPROT_RE~%p/1~.!9WRI~%n|2~.!:EXEC\t0x4~.!9NON~%QC~.!9GROWSDOWN~(on~&oq~1!GUP~&P_~'!E~*!GMAP_~%z6~%qa1~-!;~(-&0x~+RL~*!U_VALID~'!E3~.!zTYP~%!:f~/%:FIX~%%9~+IS~",
    "&!:LE\t0~*/)MAP_ANONYMOUS~*//~-!:\t~1!K~.bz~.!Q0x20~()!#~/!F\t~.!o~-!DHUGE_SHIFT\t~+DA~)!=~'Gw3~-&gS_ASYNC~+1iMS~%P>~,RZMS_IN~)'m2`~/u+MISC~,&HDV_NORMAL\t ~%h.~",
    ",!<RANDOM\t  1~/!<SEQUENTIAL  2~/!?WILLNEED\t  3~/!>DONT~'!>4~/!>FREE\t  8~0%REMOVE\t  9~3!rFORK\t  1~0&2DO~(!=~0&3MERGEABLE\t  1~0&4UN~)!C 1~0&6HUGEPAG~%!_~0&7",
    "NO~(!B  15~3&!DUMP\t  16`~1!A~(!>7~1'qPEONFORK  1~0'=KEEP~)!A~0'BCOLD ~'!!2~0'CPAGEOUT~&!A~0'FPOPULATE~%15 22`~8!D~%1? 23`~7)c_LO~%vd24~0!FHWPOISON~%)60~,VE~+,&",
    "XOPEN2K~*!bPOSIX_~,,/0~5!A~',31~5!A~*,7\t2~5!E~),<3~5!C~),A4~-&2~%6<MCL_CURRENT~+&p~*!8~,%fMCL_FUTUR~%/!~-!:ONFAULT\t4`~8?A~%7,shared~I<R~%!Wmap-flags-generic~k",
    "8g~3%'~Y8s~,3:~-7i0~,f7MAP_DENY~(8z008~/!BEXECUT~%/p~'8O~-!C~&+v~(8I~-!>NORESER~%TB~.qQ~%8I~'--~&h8~1!b~&qf~&h=~/!ASTA~%!=2~1!=HUGETLB\t0x4~2!ZYN~%YT~.:i~)9+~%&",
    ")PLACE ~'%D0`~K*;~(*r~i*0~)+k~S*%~1G6~+-AREMAP_MAY~%6>1~1!=~&<62~1!;DONTUNMAP 4~'DJ~&/+^+%(b~*|_~+!9 1U~/!<ALLOW_SEALING 2~0!C~')= 4U~*|q~,%=N~%%&~%!g~/!a~+!= 8",
    "~0%&~%%]0x10~*%&~,&CLOCK~(0a~,!a~,!;~&&G~1!cPKEY_DISABLE_ACCESS~+!i~3!B ~%DS~6!F~&6A~%D_ ^6%=5``int memfd_create (const~&tX*__name,~*He~&H]~%1/^,%5=~'!olock2~(!",
    "i^(%5oadd^2%=U~E!z~&%!pkey_alloc (~4!X~1!qaccess_right~3%x~%!wset^(%?Zkey~V!jg~-!j~7!Ifree~C!Jmprotect^*%9P~2'],~(Vorot~)!/~/!z^Y%9w~&00~h1I~Z7D~,3x32BIT~%4U~6:",
    "I~48i`~6!O~(O(~J'.^C%I:~:'2~2%P^7%I:~P4U~(agovec;^2%I8pro~%,1madvis~)+Gpid_fd, ~&.l~,!k *__iov,`\t\t\t\t ~*+=coun~)+3advice~(!H~)-P~(/0^*%I|;^)%C7~%,T~(%_relea~",
    "(%apidfd~/.B~10!~M,4queue~=aYMQUEUE~=,3~'!l~5,5~*!A~LaZ~,Xsmq~%X:~()<mq_attr~'g'~(dgs~'dgmq~&(*;~8!Bmaxmsg~:!Csgsize~9!Dcurms~8%.~%g'[4]~Jf/msq~Bf/MSG~=(Psq~<0b",
    "sg~Qf/~((O~2hsmsgqnum_t;~>!Ilen~%)0~4%3/~&)F_msqid_d~%%D~B!L64~'!N~,V.G_NOERROR~&h'0~;fiMSG_EXCEPT~&h<0~.!>COPY~&h<0~60r~%VW~*!Xmsg_cbytes\t__~*!0^,%P%MSG~%hU~.",
    "TNSG~%hE~.TF~'!N_ANY 13~*otmsginf^*%7i~%-:sgpo^(%98~'!4map~/!3x~.!3nb~/!3i~-!3ssz~-!3tq^:%9zmsgseg^)%9w~K1Gpara~Dt'PARAM~<,u~'!o~9,w~)!D~:iwARG_MAX^,%ERundef_~)",
    "!<~1-S~%&I/limit~/,4~&!=~(%F~,U?~/!| u~/%M~&!3~9%L~&%o\tMAXSYMLINKS\t2^.%X:NO~%dg\t25~)bq\tNCARGS\t\t131072~G(q^>%UI~'(o^?%UH^?%UG^;%UF~+i6OLLIN\t^/%>8POLLPRI\t",
    "^/%>7POLLOUT~&!:4^0%Mw~)Yo ||~4!:2K8~+/3POLLRDNORM^(%>&~.!=BA^&%_88~/!=WR~'!X10~1!=~'!X2~811~.OZPOLL^&%7H4~0!r~'e3~&RV~0%mH~%lh2~,2D~/(!ERR\t^/%BHPOLLHUP\t^/%BH",
    "POLLNV^&%b[2^G%'gptrace~<Sn~0*vTRAC~==9~/!z~:+)~%!L^;%Nj __~&!H_setoptions~%<z~'%TO_~%!+SYSGOOD\t= ^&%ey^&%Y0~0!J~%i1~+!G2~2!GV~0!H4~2!HCLONE~,!H8~2!H~%s>~*!G10",
    "~7%:DONE ~*!L2~3!LEXIT~+!r4~3!GSECCOMP~+!J8~.!JEXITKILL~'!F~&Z:~-!FSUSPEND_~'!r~'%g2~2!M~%pl~'!o3000ff`$;~0),eventcodes`@`~*!eEVENT_~'(6~,(x~&!<~((Q2~1!=~((G3~1",
    "!=~'(<4~6!t_~'(35~3!]~%()6~1!<~('( = 7,~1&7STOP\t= 128~%&u~/&vget~)A<info_op~,,0SYSCALL~%=,~%yS = ~,(0~-!DENTRY ~.'O~.!EXIT ~.'U~-!D~*)J3~&&'~'>,~)&)peeksi~%>9_",
    "arg~&.3__uint64_t off;~)!532_~'KN~&!7~(!6nr;~3*+~,%*~%!Y~-*2PEEKSIG~&%y~%|% = (1 << 0)~6&'seccomp_metadata~0&'filter_~-&.~&!<~&&.~6%!~+)*~+!x8_t op;``~.'!arch^3",
    "%bmal~%AR__ (4)));`~.%Pin~&%Fion_pointer~/%ustack~,!?union~%D'`~%Bd~&!h~%!.~&D:~-!fn~%!X~/!8args[6]~&!=$ entry;~<!v~(!_rval~.!w8_t is_~%6!~)!wxit~%Zt~h%r~-(8ret",
    "_data~(%9~')|~'EO~5)Frseq_configuration~0*I~%!Fabi~2(U~&%D~(!C~*P9~)!?signature~:-9~)!7pad~'%v~2+Bud~'%v~0%o^(%;[~,*<electo~0*Toffset~/!8len~(%D~'!!~'W6long~&W;",
    "~%%R (~./(request _~(!-, ...~+W8~E=(resource~CIhRESOUR~><|~*!u~9<v~,!G~MRo~&'A~&'(r~%IT_~(!r~&2!RLIMIT_CPU~&4z~(AB~+!;~*!.`~+!VFSIZE~&55~(Hh~-!=~,!0~,!]DATA~&5M",
    "~/![~%!<~+!/~,!Y~%uw ~%9F~/!Z~&!=~,!0~,!]C^&%wq4~1![~%!<~+!/~&'Q  __~'!8RSS~&:)~/!_RSS~-!I~,%=~&L(~&:*~+!r~(!9~-!J~1(=~'!d~-!1~0!H~&!G~.%(~,%QAS = 9~1%*AS~*!-~.",
    "&eNPROC ~%<Q~0%b~%!=~.!M~.!cME~%sM = 8~1!e~(!?~0!Q~.!iLOCKS = 1~2+P~&!>~.!N~.!dSIGPENDING = 11~1!i~+!D~3!X~/&GSG~%eC = 12~2&I~(!B~1!T~0*dNIC~%!k3~2'zICE~.!L~0+H",
    "TPRIO = 14~1!d~'!?~/!P~1,5TTIM~%%O5~3!i~%!?~/!P~.&7~%!*~%(f6~*,C~+!:~0!N~1&b~'!N~=!L~/!J~)!H~%5Y~)3t~%PmFILE_OFFSET6^+%6s~%![INFINITY~%=|rlim_t) -1)^0%=_~.!Q0xf",
    "~/!!uLL~6R>LARGEFILE~0%K64~I!w~.&wSAVED_MAX\t~-%g~4!ICUR~/!I~?'D~*gD~&'2 ~&!*;~''5~.!C~&<]~)!E~%&'~9&z~7!b64~+!d~(<6~&7G~&Ba    ~,%]cur;~2!9~'d_$;~;(Q~-%,64~.%.",
    "~*&H~.%0~*!;~&%2$;~1Skrusage_who~'9HUSAGE_SELF~/9I~+!<~+!/`~+!YCHILDREN = -1~0!_~)!A~/!3~3Yg  ,~+%%THREAD =^,%D6~.!>~-!1`~1!JLWP~/!G~'',$~?m[timeval~AmZ~&'n~.mV",
    "PRIO_MIN\t-^+%lX~&!8AX~'dx~(B/riority_which~&P5RIO_PROCE~%:m~+(Z~-!=~,!0~)!ZGRP~->)~+!:~)!-~(!QUSER = 2~.!P~%!9~)!-~&1v^B&I-^)%0R~4.x~-zI~%,F (^(&Od~%!+, ~6B;~%",
    "EB~&!.,`\t\t   ^.%!P~'!t*__new_~%!0~(!L~1!Fold~&!F~+F3^'%Ud# ^)%VARE^'&4DNTH~,&3~.!= (~'&D,~0&E^'%%_  ~G&N~'!P~E&Q~'!O~;&T,~((164);`# ~)&Y~(-A~((Q~)!K~%!I~&32^+",
    "%7f~61e~2)E64~[)G~5&s64~5)K ~4!J~7)O^-&U;^Q&Oasem~BnqSEM^A%.2~%!n^5%.-~'!=~<Kisy~+Kh~01Wimesize~A1usem^F%!'~%!L^3%!'SEM_UNDO~(m-~*!=GETPID^-&-;GETVAL\t^,&-8GETA",
    "LL^-&-8GETNCNT\t^+&-6 GETZ~&!7^+%w7~(!u6~,!6~&!u7~1(p~(w0SEM_SEMUN_UNDEFINED\t1^5%%;~*6Z~%!XTAT^-%S!SE~%=bO^-%Rt~(!N_ANY 20~)<- sem~)]Rint sem^'%!Y~(!1^&%!6~)!1",
    "s~-!1u~,!1sl~+!1opm~+!1ume~,!1^&%%&~'!1vmx~+!1aem~&Ut^L%!ish~D-!H~C-!h~9-!hm~OTj~/!;word~7-%shmlba~/,AHM_R\t\t04^+%LeSHM_W\t\t02~-,Q~%!NDONLY^)%,q~,!=ND\t^)%,Z~",
    ",!;EMAP^)%,Z~+!<~%l_~'o1~/%5^&&6i1~-!7UN^(&7'~0:J^;%08shmatt^B%08sh~H04h~-04~>-cH~'-c\t^,%aGSH~'-d\t^,%aA~(!P_ANY\t15~0!nDES^)%uA ~/'OED^(%uD~,!=^)%RC4~1!>^+%T'",
    "~&)E~'/&\tshm^-%/s~5'y^)%/_~6!Bin~<!B^(%0!~5!B^'%/X~7!Ball~8!B^5%|l^H%|n~G!M3~I!M4~(KD~'3)shm_^1%3wused_ids~;&m_tot~<!Crs~=!eswp~9!Cwap_attempts~=!Isuccesses^/%",
    "4J~S<m~'1U`~U3p~*gi~)2H~8gg~93s~00f~+15LBA\t\t(__getpag~%<t ())~.Eq~-!A^-&u_~3si~%BG__~%sc~R'Rignal^D%K]IGNAL~B7J~+!u~27Q~%!A^M&xy~+':tgkill~,Ettgid, ~+!3id^(%J",
    "y~&%9)~P:Q~%!Y^D&gA~&'2^>&gB~*!t~:*k~+!G^A&Z?S^?&fV~,!DS^/&fVS^?&fV~-!DS^V&fVsigstksz~k*r~'!s~Q*p^/%9-DYNAMIC~&oB_~%pp&&~9!?`#~*%X^)')*~%9U^&%>ISIGSTKSZ~+8p~'!5",
    " sysconf (_SC_~(!9)~+!cMIN~2!f~+!8~+%,~L,2paw^E%V|PAW^B%Vx~%!s-~7/=pawn^S'&7~'>6~,QFosix_~%!vattr_getcgroup_np^(%dd~0!Ht *~%Sf\t~&QStrict~'38~&T'\t~%%**~-!B~&%%",
    ")~%-,^5'&r1, 2~%3h~<%rs~-%r~3%l~2%W~E%K~&%H~12npidfd~&%/^&%XT~.&O~%!C~%%:^.%i&~,!Gath~+!F~+&,_file_actions_~0%*facts~6!_~*&i~/(Pp~&!T~%%U~&!Z__argv[~*!N_arr]~3!",
    "Kenvp~0!K~&'X~,'O2, 5~)'R~6'Op~>'P ~9'Qfile~,!G~T'R ~Q'S ~H'T ~U'U1, ~)'X~ZA!tatf^C&a0STATFS~B1.~'!t~6Pv~)!A~KPy~)F+~%!c~+J-fsword_t f_type;~2!:b^&%2+~<rs~(!Xbl",
    "kcnt~&!Zlock~)EP~.!>free~6!=avai~)J2fsfil~(!>files~6!=~&!v~&t2~.%!~%qK~8%]~(!A~4%a~(!?~5%c~'!A~5%e~(!?~(%g~%(m~(!G~%A[f~%!,~3(;namelen~3!=fr^(%6b~0!<^(%6K~/!;sp",
    "are[4]~IuQ~&*B~'uQ~P*D~|(F~X(F~|(>~J(>^1%%P~(0!F_NAMELEN~3!=FR~&A3~2!<LAG~K1av~H1bV~G1cv~=1dv~R1e#if (__WORD~%DC== 32 \\~&<-&& (!~*Dy^(%JR~)!Q||~4!9~%!j))~.'eVF",
    "SBUF_F_UNUSED^0%'R~'&8^2'!*^)%>W~-,b~4!C~(*Q~|3K~m3K~4!=~'!v~|3i~i/D~.!?~)&,~)4.~5(j~%/t~(2w~4*2~([4__f_unused~C%!^2')+~+!Bname~)bx^.%|9~+3n~(%C~&0]5~N4zv~-4|~]",
    ",,~|)k~x)k~|)d~|)d~:)d~)6E~&WC@`  ST~'od^.%-[~)!:\t~)!-~&!QNOSUID^-%-[~)!9\t~)!-^6%2V~'!hDEV^'%H) ~,!iDEV\t~(!,~(!O~'Y-8~0!P~%px~)!-~&!RSYNCHRONOU^(%>O~,!X~+!B\t",
    "~.!2~&!eMAND~'Yb6~/%n~(!>\t~+!/~&!Y^&&;K= 12~/%u~%!<\t~(!,~&!QAPPEN~%'e5~/%o~&!=\t~)!-~&!TIMM^&&Gv = 512~.!W~)!A\t~,!0~('bA^(%CD02~1(:~%!?\t~*!.~)(mIR~(![204~1(",
    "F~(!C\t~-!1~'*pEL~(!b409~/&Y~(!A\t~+!/~)*zYMFOLLOW = 8192~/%D~)!C\t~.!2^+%8J~F=zyslog-path~DkfYSLOG~:>&this file~)=w.  U~)=x~%%:~+=w^8&j;~'%6PATH^1&j>~-!? ^*&|p",
    "\t~&!6LOG\t\"/dev/log\"~Oh/ysmacro^?&mJ~(%VMACROS~4%s~(!=~%%q~/'j~*!Z~=Bp~*%[~6Br~,!D^;&j9~*%o~+%LDECLARE_MAJOR(DECL_TEMPL)\t\t\t\\`  ~*!5^-&EI, major, (__dev~%",
    "lSdev))~8%5FIN~:%4~9%d ~3!Q@~%_2~'!0~/5l__~%%j;~+!D~'!6  =~%qZdev &~)&1)^*%uq0000fff00u) >>  8); ~.!i|~8!iff~%!_~)!!~&!i32~)!i^&'N[~.%q~%%r$~?(lIN~P(lin~S(l~7%4",
    "~9%d~T(lin~1(lin~H(l~%(o~'(l0~,(l~%!i|~=!if~*(r~&!i1~4(l~*%q~F(lAKEDEV~>(n~'%Y, makedev,^1&O?~'-s~4'R~B-y~8%Q~;&*~D)4~-*d;~1!=~&),~*(6(~(-H&~+(Bu)) <<~%-q~-!c|~",
    ";!c~((|~'!c32~C!c~%*&~)%H0~*%H0~L!c~(*I~'!c1~*%H~)*G~.'0$~N7)^&'Qfs-bau^?&aaTERMI~C6D~.!x~16G~'!C^D%&J^.&ukCBAUD\t^)'fY00^,&qA~%!AEX~+!B00^+%5'CI~(!d200360^.&Bq",
    "CMSPAR  ^('!Y~/!BRTSCTS^)%!c^-&C<~)-/ B57600    ~&%O1~+!>1152~%!?~&!>~*Gg B2304~+!>3~+!>4608~+!>4~,%;~%%V~)!>5~0%W~*!>6~+!>9216~+!>7~,%u~&&T~'!>^+&5t~(&8~)!>~-&",
    "T5~-!Z~-&T~.!x~,&T2~.!Z~,&T3~.!Z~,&T3~.!Z~,&T4~.!Z~*&T__MAX_BAUD~)!I~N-Cc_cc~p-C_~&!x~O-C~)&JVINTR ~*(rVQUIT ~*(gVERASE~+NyVKILL ~*(OVEOF ~*(CV~%I4~*(7VMIN ~*(+",
    "VSWTC ~*'xVSTART 8~,!4OP 9~+!3USP ~+*kVEOL ~+*_VREPRINT ~+*VVDISCARD ~+*OVW~&&F~+*GVLNEXT ~+*=VEOL2 16~Q)Qflag~q2v~)!|~X)WCSIZE\t~%+x^+'Gl  CS5\t~)1O~+!96~&!92~",
    ".!97~&!94~.!98~1%'CSTOPB\t~'3_~*!:^&'5%~%%'~*!9PAREN~&!Q4~.!:OD~%!R^-&wvHUPCL\t~&!j~+%)^'()/^'%3w~O)-i~v)-~%!zs~Z)-IGNBRK~'(p~*,bBRKINT~'!:2~,!RPAR~'!:4~,'lM~(!",
    "l~+-cINPCK~1)aI^&'eI~0)bINLCR~1)HIGN~'!9~,)HICRNL~1)GIUCLC~))F~*!:XON~1)FIXANY\t^1'rdXOFF\t0^/%PkIMAXBEL\t~&!j~,%)UTF8\t~&!k~Q*5l~w/?l~a/?ISIG~1*3ICAN~&'j~&*3^1",
    "%:HMISC || (~.!:^&&Q+&& !~3!;2K)~*>*XCASE~*+)^.';aECHO~1+.ECHOE~)+.~-!:K~1+.ECHO~'*X~,+/NOFLSH~1+0TOSTOP~*+1~:BaECHOCTL ~)+G^,%SCECHOPRT ~(+N~/!>KE~%CC4~/!>FLUS",
    "HO\t ~2C:^&&+H\t ~(+C`~0'PIEXTEN^*%X7~<&4XTPROC~(CK~UGV^''v[~s,Bo~a,BOPOST~1,COLCUC~),B~*!:~)1L~,2RO~)15~,+FONO~(!P~+2QONLRET~1+FOFIL~2+EOFD~%0v~'+D~9-w~3-[~*)7",
    "NLDLY~*+u~(!:  NL0\t~1I8  NL1~2!RCR~'!l3~/!RCR~5!lCR1~*9W~,!:2~*45~,!:3~2%+TAB~&%D14~/!STAB~5%ETAB1~*5*~-!;2~*5,~-!;3~2%/BS~&%G2~0!SBS~5%FBS1~2!RFFD^)%f;~-!RFF~",
    "5!lFF1~*!R^.&g< VT~&%d4~/?JVT0~3?cVT1~)!P~</WXTABS~*'%~S/Umis~qIk~'!x~N/O~M&+^&%%'~q&-~(!z~PU>~(.xCCS 32^.(/%^*%.wt~%GJ_^/(.t~+!9o~5!9c~5!9^+(.Scc~&!5^)(.J~'!4^",
    "&(.AS^'&P%speed~&%M~%!.~0!9o~'!9~)PmHAVE_STRUCT~)'rC_ISPEED~+NL~7!LO~(!L^J%VA~((Xtcflow~q)W~(!z~W79\tTCSANOW^+(.j~%!6DRAIN^*'Uf~%!7~%;R\t2~M&p~p&i~Q&b^1'czchar\t",
    "cc^,''n~,hD\t~'*]~7!B~(+|^3%sr~0.<~8!E~'VX~:!C~'M<~;!F~(=.~-a3~34=B50~1<n B75~1LD B11~(!O~,[[134~1=*~%]S~'!95~.]N~'!96~.]-~'!9~,_z6~(!9~._u~)!j~._q8~)!:~-_m4~)!",
    ":~-cB~*!R~,&/9~*%C~,&019~*%D~-&28~*%-7~?D[A~'!n~-!8B~'!k~)Ee~=i7`~;*Y~B*9~(Lf^>'-fTIOCSER_TEMT~%gex01~40<OOFF~.0;OON\t~-08I~%!G2~-!5N\t\t3~-!oI~&0_~-!p~&!6~/!r~",
    "'1/~8&]~)2i~9!F~':t~G1uimer^D%mqTIMER^>%mp~)!r^9%mo~+!F^A%mnT^?%mn~,!DT^/%mnT^?%mn~-!DT^V%mn^-&*7iove~?A:~&!H_~'I8~+jP~-!;^+%/E __need_^&'Bc~+)mstddef^-(Kl~%!k~",
    ")'e^&'Jiiov_bas~'<f~&!m iov_^'%P:^P&2z^9'9A~<&t^|'<r~&u9 _~%+o^(%MG^,&Su_~+%u ^(';q^'%J-^)&l1~*!G`@^,%q%~<&n_helper.h>`^*%?i~W'j~|'h^Y'A]~%.z_~%;=^,'<2~''f@~.4,",
    "TIME_BITS~%(I~Q'e^(%Ni^/(1< msg~%!,;^((_D~,)b32`  __~&%y~%!Ostim^.(0h^)%FF^&'?J~%!E_high;~0!cr~A!cr~:!cc~A!cc~+!c^'&M)~8&6~6%h~4%>^(&HH^6&1[^*'C<;` ^*'Fg~%!hqnu",
    "m~'!9len~(!8~)!Q^(&)(msg_lsp^((5!~+!8r~)!8^F&3+~C!K5;^P%B0^5&VD~=4R~&!I~34S~.!<~%4T^G&A>^8&XG~)!!~',S~&%0^*&_(~(Ox~&!V ru_u~&)R~7!Bs~+!B__extension__^)''v    @`",
    "\t~)+Nru_maxrss;`\t^4'O]~)!D_wor~'Oc~&6;~O%4i~>%3i~5%2~O%1d~>%1d~f%1s~&%1 ~8%2s~f'Pminflt~;(d~%!D~b&Dmaj~>%3~%!D~b%3nswap~:%2~%!C~d+*nblock~;)v~&!E~b&Eou~?%5~'!",
    "E~c(jsgsnd~;(j~%!D~e%3rcv~=%3rcv~d)zignal~;.g~(!F~2*(~P%9vcsw~;%6vcsw~c+8ni~?%3i~4%4~bFq^,&]2~AC,^D&b.^8&_f^P&bA~>G+~*&/ ~(%2~0G+~*!G~AG+~*!N~jG+~*&t~|'z~R'z~('",
    "=~)'T~YFt~5'S~8Ftsem~'Ft~+Cssem_o~*D1~2As~)!E~2Evsem~*Ev~8!cc~/!c~0!Jsem_nsems~GCI3~JDC~]Cs^,&Z_~B*cH~P*ch~>*ch~Y.b~)&/ ~(%2~1.bh~J.bh~s.bh~J.b~|'z~9.b~('T  ~Z.",
    "dh~;.d~3.fh~*.f~)Yqshm_segsz~:Qu~,.Uhm_a~(.U~6PR~)!G~).W~/!gd~C!gd~<!gc~C!g~5R)~:&C~8%r~4%G~*R/~*Py~%!Cp^*&4?~*!9l~)!9^(&jB~%!:nattch^I&cZ5~I!M6^+%|[~U1atimeb.h",
    "~+QC~%!5~3QB~-!;~8QA~-Z[~+P8b~)di~'(2~3)Q^+'t[illit~(,8~)!:timezo^(%&1~*!;dst^(%&Z~P?Tuio_lim^D%qeUIO_LIM^1%qc~)!; 1~+!b~)'_IOV_MAX\t1024~O%mtmp~>%jUTMP~A2J~&!m",
    "~128~(!:~<c6path~/Vo~(nB~3!9^D&vc~*'>UT_LIN~%1Q\t^+(z6UT_NAM~4!:HOST~%!:256~,X'lastlog~(42 ^*&:H~%2a64_COMPAT~'2b^('V?ll_~'/d~20[~+!?~)0'char ll_line[~+&8^'%-Z~",
    "(!Chost[~+&)^)&2y~*&,exit_statu^*%/r~*,Le_~%tInation~0,le_^&'[l~(!z~'!yutm^&'gf~*!Nut^)&/!~&1yut_~'1w~%&&ut~2&F~'',^*&k=nonstring__~,!_id[4~J!Quser[~+)V~J!_~1'u",
    "~A!_~2(2 ut~''Y~'-h~>*I~(*Gut_sess~'(T^)'c)@~-*otv_sec;~0!7u~'!8$~%(Vv~*+6~)8=~4%-~)bo~)!Y~&.i~-%gaddr_v6^'&Ge~%'O~06E[20^0)?kut_name\t\t~'(c~*0sNO_UT~%'.^,%JGu",
    "~&6K\t~%%Z.~&&e^0%J/ut_x~3!I~*!Baddr~%%B~(&/0]~,3KEMP^&)>A~)!5RUN_LVL^,(v*BOO~&%q^,)>DEW~&!6^*%+zOLD~&!64~*!uINIT^('B<^+)>LLOGIN~)!;^*%+wUSER~)!:^*%./DEAD~)!:^+",
    ")-pACCOUNTING\t9~.2_UNKNOWN\t~%&]~.6AHAVE~%(CYPE\t1~2!;PID~4!:~6!9TV~4!9HOST\t1~J7Ax~C7BX~E7Cx~77Dx^Y'1Y~67J~472^2(9]~38N~)K_PATH~&&S\t~*!/~0!DW~+!DW~%!D^1&R*_~",
    "78O~%!<~48Q__~;8S__~06L^3&>i~R6_~+Id^+(|3~=!b__~*!d~*DD~.7Mx~:7N~(FN~77P~-'a~|7Rser[~-(Y~O7T~-)&~I7V~-)>~.7X~C7Y^*(!_~=7[~*!K~,7_~-!9~q7b~/%l~O7c~45x^9(Ek~(621~",
    "07J~|68~]68~9&?~-6K~NI0sname^B&_sUTSNAME~C4r~'!v~5WR~+!B^;%ay~)%;LENGTH 65~.8Y~(!CDOMAIN~(!J~/!Z~F'!flt-eval-metho^?&/dM^'&EX^8%2R~1!t^6(Tnath^?&/aFLT_EVAL_METH",
    "OD__~(Y.~1!< =^&'c/^+)l>GLIBC~0!N\t2^+'XP~?!O~6%P^))lc^-%do^))5]#~A%%0^2)mH~9&%~K,Afp-fast~c)7~(!l~Y)/USE_ISOC99`^-)9)FP_FAST_FMA~+(L~+!9 1^+)8Q~4![F~6!]F~B!_L~",
    "6!_L~-!_~N(;logb~e(;~&!l~Q(;~)*aFP_LOGB0_IS_M^,%X'~*!?NAN~*!B~E&Wmathdef~=37COMPLEX~<&Y~)!n~5&Ycomplex^4&S+~E%wplatform/featur^E)CMPLATFORM_X86~A5D~3%.~55N~)!Lx",
    "86~75S^*&c'x86_~'!w_1_ibt\t\t= ^&*:<0,~1!Dshstk~*!F1~%;_static~%<Jline__ _Bool`x86_cpu_cet_active^1&H7index)~,xC~)26^1&L'~)%V;~+.'LP~'!Q__asm__ (\"mov %%fs:72, ",
    "%0\" : \"=r\" (~+!j))^-%?w~1!b40~A!b~'?C^&&v*~%&C == ~(&rIBT)^.&F!~)!g &~2(H;` ~*lS~D!W~%([~*BV~'!Vfals~*_J$~O,6~%*X~y,1~'+a~V,,~),*CPUID_INDEX_1^((IO~,!87~0!48",
    "^'%c?~0!;D_ECX_1~7!S~8!n8~1%?~6!n19~1!54~%!N~1&,2~'!;`^+'Tpcpuid~()k~%&w~--3~&!Carray~'G[~-!C~&.?~+!D^)(J]~&!_register~&,2~%%.~4!<_eax~((5~6!Dbx~:!?c~;!?dx~'II~",
    "-1acpu~'!E1_ecx~%-3= (~.)u* 8 * 4 *~%xxof~.1)~&.H   +~9%i~'!i~5!e),`~+%]SSE3\t\t\t=~4%p,~+!LPCLMULQDQ~7!P +^&(Q3~(!>DTES64~:!Q2~,!QMONITOR~:!R3~-%*S_CPL~:!Q4~,!",
    "QVMX\t~:!O5~,!OS~=!O6~,!OEIST~;!P7~,!PTM2~;!O8~-%R~<(e + 9~,!QCNX~%aw~:(g0~-%+DBG~;%*1~-)=FMA~<!P~-)<CMPXCHG16B~;!V~-)AXTPRUPDCTR~;)F1~-)GPDCM~<%e~-)I~'-z~&2?6~",
    ":!Y~-)SPCID~<%1~-)TDC~='H~/)UE4_1~;!R9~1!R2~;-k~-)UX2APIC~;!R~-)VMOVBE~;&32~-)XPOPCNT~;!R~-)TTSC_DEADLINE~;!X~-)UAES~<%a~-)TXSAV~=&7~-)MOS~'!T~9!S~-)OAV~<0-2~-)",
    "OF16C~<!Q~-)NRDRAN~;/*30~8,;31~:!Y1~-5R~)!Ad~z75d~L75FPU~6'Dd~-74VM~7)Kd~27/~<!N~.,3S~<!O~0,0~;!O~-,'MSR~;!O~-,&PA~<%Q~-+|MC~<!O~-+wCX8~;!O~-+v~&0?~9!P9~5+DDX_1",
    "0~:(c~.7+EP~<)7~.1MTR~<'e~.7+PG~=*<~-)<M~84cd~26vCMOV~<!Q~/)?T~<!P~.6mSE_36~;!R~-)DPSN~<%)~-)ECLFSH~<!R~9)G2~:)G~.6uDS~<./~-)FACPI~<!Q~.Bj~8A4d~26oFX~=.4~.6hS~=",
    "/f~.6hSSE2~<!Q~-)GS~='1~-)DHT~<*J~.6cTM~<!O~9)A3~:)A~.6hPB~=2z~46]7_eb~56]7~d6]b~M6]SGSBAS~3;07~(Mp~,=AADJUST~7!Q~06iSG~4+V~(!O~-,,BMI1~;!P~-,,HLE~;!O~.>oVX2~;!",
    "P~3EH7_EBX_6~:!X~.,1M~54g~(!P7~/&b~<%]~-,2ERMS~;!P~/,3V~&G%~9(k~-,-R~5-:~)!P~-)ARDT_~=!R~-)DDEPR_FPU_CS_DS~:!Y~.6|P~<*P~.6|RDT_A~<!R5~/*'512F~;!S6~2!S~4SZ~)!T~-",
    ")ORDSEE~<(J~.<MD~=&f~.JtMA~<+,~.6y~&&2_I~%P'~9!W1~8,p22~:!Y~.P]L^&&eBP~;00~.77CLWB~<&C~-)[TRAC~</a2~3)[P~;)]2~3)]ER~;!T7~2!TC~;)a~.7FSH~<+r~.7G~&%+BW~;3!~3)dVL~",
    ";!T~77Fc~z7F~Ma;PREFETCHWT1~5&;~.aB~',PVBMI~7!R~07JUMI~7-[~2aCPKU~;!O~-,>OSPKE~;!Q~-,>WAITPKG~:!R5~7&c2~:!W~.7MHSTK~;%a~-,>GFNI~;!P~-,:V~6US7~4aLV~;f:7~5aO~(&iN",
    "N~<)N1~3!WBITAL~;(!~.7b~-n;3~:!Y3~4%p~&YjDQ~:![4~9%;5~:!Y~-)vLA57~;(:16,`~,-gRDP~5ak7~5]+KL~<!O~-&sBUS_LOCK_DETECT~:!Z~.NdLDEMOTE~;%55~8'K26~:!Y~.T5OVDIR~;*T~.5",
    "/~&!S64B~;!U~.ADNQCMD~;!R~.:pGX_LC~;0c~.IOK~<-x~85,d~z5,~M]2~)))DX_0~5&=~.];SGX_KEYS~7!O~05+~'.>4VNNIW~:!X2~4!XFMAP~;%7~.QoSR~7EH~2]TUINTR~;!Q~6,ND~8Ih~2]b~,!X7",
    "~:!X7~51o2INTERS~7.|~2]y~,%<9~:%<~-,cMD_CLEAR~;)E~0J._ALWAYS_ABOR~:%m11~8%n12~:!Y2~0%;FORCE~A%:~-*+SERIALIZE~;&O~-*0HYBR~7M3~3_HTSXLDTRK~;!T~9*-17~:!Y~._SCONFIG",
    "~;%3~-*!LB~<,I~/_TBT~;!P20~8&721~:!Y~./sMX_BF1~;-R2~4/oFP~=!W3~0%2TIL~;)e~/sOMX_INT8~;!T~./uBRS_IBPB~;!U~.B2TIBP~<(*~-)aL1D_~%MB~;!U~.P5RCH_CAPABILITIES~:!]~-)o",
    "CORE~G!]~.8WSSBD~;&J~58X^(%43~8Jk~(!D~|Jr~58iLAHF64_S~%!*~2&L~,&.~-'&V~47(~,!R~08;L^&(z9~A!X~0h*4A~C!X~.mU~(MD~B![~-*oXOP~C%8~.5ALW~E!W~-&MFMA4~D!X~-&MTB~E(>~>+",
    "Hd~|+H~SA5^((;TSYSRET~;&S~39eNX~='0~35-PAGE1GB~C!Z6~/bQSCP~C!Y~.2=M~D%p9~3)%d_ec~%m|a~5)!^'%Ad~d(|a~L(|XSAVE~5a&~+&',~0!UC~=!S~0F:XGETBV~&&X~A!_2~1%;S~A!W~-9LXF",
    "~45:~.!U4~:-s7~?-s~|K-~8K-VARIANT^&%+H=~;&.~&2r~8&R8~8u+~(!D~|u2~5&RWBNOINVD~9&M8~4pKAMD~&=v~'%Z ~?!d~.G6~&!eRS~J!e~/?|D~'>r~I!f5~1!fSBD~I!e~0BMD_VIRT~O!j5~8go~",
    ":1_7~|1_~;*6RAO_IN~6nb~8/lAVX~<bQ~,/p~2bV~8H/~+!]~/_cS~9X%~)!V~-77CMPCCXADD~A!Z~.RDrchPerfmonExt~?!a~->kFZL~8UD~,4v0~/Uz~C&R~.;&FSRC~D!X~-.QWRMSRNS~B!Y~//sX~:LT",
    "~,6g~-%rHRESE~B*w~1Mp~:wP~,!Z~-+WLA~C(B~/d0SRLIS~C%p7~</:d~|/:~R8'~(.[~:PIc^7%?QAVX_NE_CONVE~6X%c^7%?cAMX^(%m,~A%B8~4IvI~A!Z~/6*VX10\t~B!X~.,:PX_F~B!X~5He19~8;5",
    "19~|;/~6)ZESK~4VT~&%s~-/dIDE~%o1~6!O~&Bi~2&g4~%'30~9&m^'%dV~|&s~6|lT^&(PS~2&F~+&(~7D)2~?&L2~|&L~?/%10_XMM~1<h2~.&M^1%1,10_Y~D![7~2![Z~D![8,^I&kQprocfs-extr^6)?B",
    "^/%o:ROC^C(m[~.%!^6%o4~%!G^Z'c9~'%1id~t&/id~S&,^/&:|^'&g[^=+?0pr^&+K!;~B!Kg~&!K#^6+A0~B!u~2!o~Q(7prregset~t(=~*%'~R(D~(&eelf_g~&!m^&)fyr~)!1;~-!Ifp~-!J~*!2~M-U^",
    "D%xh~L''~T&v^3&&v^.'+C~1*)long~&!(~('S~;*|~3!L^2*tXELF_NGREG (~(3X^(&Hnser_regs_~&!4) /~)4&~*%%))~1)=_t~.)I[~)%3];~+(4~*&t~)!i~,%J~&)T~'%L~/)x^&&G.~6!Zx~2![x~*!",
    "]~&'S`~U%C~L.Frse^C*mVRSEQ^=*;p~%!l^:*;l~'!C^:(_A~()f~%%8SIG~(R]0x530~%!&^H)(ndlib-floa^A)DaTDLIB~<&P~.!s~6&X~%!G^D&;gEXTERN_INLINES~'-mrn^'&1j double`_^&)w=ato",
    "f^1+--ptr))`@^*&-vstrtod (~&!?, (~&!O*) NULL);`$^P(gGca^(*f&~,*&~%jQ~<'N~(!_~9*(~+!F^<&:y^&&B]LINUX_VERSION_CODE 39500^,&KUNR^&&=qatomic_updat^+&CSSYS~3!D~:!]~0",
    ")/~(!Kcmpxchg~3%(~'!=~4!P~?!t^,',]~0!v64~6!T~3!z_llseek~.!s~'!8~/!F~4!enew^&*K(~/!h~)!;~2!L~4!nsysctl~/!k~&!8~/!F~3!eaccep~/%Q~&!7~.!D~9!b4~4!c4~/!F~7!ess~2!dss",
    "~.!D~6!b~2&-t~,!?~5!Yl_ge~1!]~%!8~/!F~7!es~4!es~,!es~8!edd_key~/!e~&!8~/!F~5!ejtimex~0!f~&!9~0!H~4!hfs^('+)~/!k~*!<~3!N~4!qlarm~/!klarm~-!B~5!]loc_hugepage~0)y~",
    ".!A~7!V~4%%rc_gettl~0!x~)!;~2!L~7!ns~7!ns~/!ns~>!nusr~62;~/!A~7!V~6%%h_pr~1/l~*!;~2!L~5!nm_f^&+6L64_~036~0!B~8!X~7%(sync^&)Rdrange~2%+~/!E~;!a~4%1~&6fbarrier~/%",
    ",~-!?~6!T~:!z~'(L_32~5%%~*!C~9!Z~5%+t~3)-~&!8~/!F~3!ebdflush~.!e~'!8~/!F~4!eind~/!bind~,!?~4!Ypf~/!Xp~,!=~4!Vrea~/94~%!6~-!B~8!]point~3!d~%!;~2!L~5!n~1%Mk~+!=~3",
    "!Vcache~1(l~(!9~0!H~8!h~3(q~*!;~2!L~8!nstat~3!mstat~1!J~5!kp~18[~&!7~.!D~6!bs~3!bs~+!b~88Vchdi~/.X~%!6~-!B~5!]mo~/+n~%!6~-!B~5!]own~0!]own~-!B~8!]~0/X~'!8~/!F~5",
    "!eroo~0'I~%!7~.!D~4!block~(:v~/!i~,!>~5!R~A!w~05?~/!A~7!V~9%%getr~0:t~,!=~4!P~?!t_~:%z~-!E~;!a~<%1~8((~'!>~5!R~A!w~9&)~5&%~B%ynanosleep~4%%~)!A~7!V~C%%~;(4~0!H~",
    ">!g~9%:s~:(:s~2(:s~B(:s~<(:s~4(:s~A(:n~2%qne~-!B~8!]2~3!_2~.!D~8!b3~3!b3~.!D~6!bs~2&)se~-!B~8!]~4A;~+!<~3!N~4!q~'>Dbadadd~05M~.!A~7!V~4%%onn~1Qi~'!8~/!F~5!epy~9",
    "Cy~/!A~7!V~4%%re~1:>re~)::~&!B~8!]e_module~3!g~(!>~5!R~3!wdele~7!w~-!>~5!R~4!wipc~/!nipc~,!?~4!Yu~/1edup~+!=~6!V2~1!W2~,!?~6!Y3~1!Y3~,!?~3!Yepoll~''t~.!d~,!=~4!",
    "P~?!t1~:!u1~5!R~:!w~0Cu~)!:~1!J~<!k_old~7!o_old~5!R~9!wpwait~4!u~%!<~3!N~>!q2~9!r2~4!P~9!t~8%i~0%h~?%gwait~8'W~(!?~6!T~4!z^&-&B~/!s~&!8~/!F~:!e2~5!f2~0!H~4!hxec",
    "_with_load~0Qe~0!B~8!X~7%(v~2!uv~-!B~8!]e~3!_e~.!D~9!b~04<~(!9~0!H~5!h~1*Lx~)*Fxi~:!Y_gro~02R~*!;~2!L~3!nf~&eb~0&9~)!:~1!J~<!k2~7!l2~2!L~5!n~'YW~0!m~'!:~1!J~<!k",
    "_~9!n_~1!q~8Zvf~%b|~14j~)!:~1!J~5!k^&-&b_in~0)h~-!>~5!R~<!wma~0UB~-!>~5!R~4!w~3Qhf~+Qif~:Qjf~3Qkf~+Qlf~:Qm~&!>~1+M~'!9~0!H~;!h2~6!i2~1!J~6!k~1SHf~+SIf~:SJf~5SKf",
    "~-SLf~<SM~&!A~3'(~%!9~0!H~5!hn~0:p~%!6~-!B~8!]~1-L~&!8~/!F~4!edatasyn~/Ae~)!:~1!J~4!kgetxatt~0+M~(!:~1!J~4!kinit~5D7~,!=~4!P~4!tlis~5%e~)!;~2!L~5!noc~0.qlock~-!",
    "B~4!]o~1/Qo~)/Ho~8/>p_udfiex_cr~1*3~-!?~6!T~4!zree~8rV~.!?~6!T~6!zmove~4(/~+!=~4!P~4!ts^'+Lu~.!p~'!9~0!H~5!h~6+Qs~.+Qs~=+Qsmou~0ij~'!8~/!F~5!eope~01R~%!7~.!D~5!",
    "bpi~1+6~%!7~.!D~5!b~1hpf~*hlf~9hh~%!=~10b~&!8~/!F~8!e~7!g~/!i~>!kfs~3!ifs~/!F~:!e~5%Rfs~-%R~&!J~5!k~23!~+2x~:2t~2]9f~*]1f~9])ftrun~3=f~(!:~1!J~<!k~1&y~*!<~3!N~4",
    "!qut^0%)=~%!6~-!B~8!]^&+VBue~3!g~(!>~5!R~9!w~4bA~,!=~4!P~9!t~2ND~*!;~2!L~=!nv~8!ov~3!N~;!qk~5'Swake~2!L~6!nime~2Hu~(!:~1!J~3!kget_kernel_sym~/.U~/!A~7!V~7%%memp",
    "olicy~2!|~)!>~5!R~7!wrobust_list~2!y~+!A~7!V~7%%thread_area~2%%~+!A~7!V~8%%l~3'u^)%/%~)!F~6!ecpu~1!dcpu~.!D~7!bwd~2!bwd~.!D~6!bdent~2&0~%!9~0!H~;!h~0/5~*!;~2!L~",
    "7!nomainna~040~-!>~5!R~7!wtablesiz~3!w~)!>~5!R~6!wegi~2(7egid~/!F~:!e~0JE~)!:~1!J~7!ku~4%Ru~,%Ru~;%Ru~6%Ru~.%Ru~<%R~4'*~,')~;'(~6''~.'&~='%~%XA~2,,~&!:~1!J~<!k~",
    "4%X~'!<~3!N~6!qhost~5,/~(!<~3!N~6!qitim~0b1~)!:~1!J~6!k^(+)=~1!m~(!<~3!N~7!qeer~5&T~(!<~3!N~7!q~4*Yp~,*Zp~;*[pgrp~3!erp~/!F~7!e~4%K~,%J~;%Imsg~2!cmsg~/!F~7!e~5%",
    "J~-%K~<%L^'+Ua~2!i~'!<~3!N~6!qrandom~1!o~&!:~1!J~7!kes~4)C~&!:~1!J~<!k~3.M~(!<~3!N~9!qu~6%au~.%au~=%au~8%au~0%a~=3A^'+dH~1!o~%!:~1!J~7!k^&)('~1!k~%!:~1!J~6!ks~3",
    "':s~+'7s~:'4sock~5/u~(!<~3!N~:!qopt~5!popt~2!L~6!nt~3&Ht~+&Ht~:&Htimeofda~2-m~)!=~4!P~6!t~4+>~,+;~;+8~6+5~.+2~=+/unw^1%Fs~)!:~1!J~6!k~3Xd~.c8~=c7getx~40*x~,0(x~",
    ";0&x~43:x~,3:x~;3:x~4(Rx~,(Sx~9(Tt~13ut~)3nt~73gid~0ezid~(er~&!?~4!Y~8fb~1fa~Af_^'-tJ_add_watch~0!w~/!C~9!Z~;%+~2rni~1rmi~Arl~,!E1~:!u1~5!R~;!wrm~<&w~(!B~8!X~4%",
    "(o_cance~/hN~)!:~1!J~6!kdestroy~1!l~'!;~2!L~6!ngetev~2Mh~,!=~4!P~6!tp~:!up~2!vp~L!w~5Z0~4!F~<!c~6%4set^0%'P~(!9~0!H~7!hub~1:W~)!:~1!J~6!kuring_ent~0Gh~.!?~6!T~<",
    "!z^(&6A~7%%~(!C~9!Z~<%+~6'e~+!?~6!T~5!z^1%6r~%!6~-!B~5!]pe^0%hs~&!7~.!D~6!b~1%Bpl~,!?~6!Yr~&-8~1!b~'!;~2!L~:!ns~7!ns~/!n^8%Vc^1%>y^)%>x^8%>wkcm~/)0kcmp~,!?~4!Ye",
    "rn^(((d~//d~-!>~5!R~5!wxe^'%g(loa~/:8~/!A~7!V~9%%~8!x~0!s~;!ny~1+f~&!7~.!D~4!bi^0%qKki^(%qD~&!?~3!Yland^'%W/d_r~1;H~1!C~9!Z~<%+^'%Gurule~1+L~7!I~?!i~<%=^)+B?sel",
    "f~7%<~-!H~>!g~4%:^3%/%l^+%/%l^:%/%l^5%/%l^-%/%l^<%/%l~6Ehl~.Eil~=Ejlin~/|&link~,!?~7!Y~0o(~&!7~.!D~5!bst^0%%+~&!7~.!D~7!b~4&n^.%-.^>%--l~8!l~0!m~A!n^2&+s^,&+r^;",
    "&+q^2%.[^*%.Z^9%.Ylookup_dcooki~0.w~-!?~6!T~4!z^9%-!l^1%-!l^A%-!~4'6~+'5~:'4^6%,sl^.%,sl^=%,sl^2%*gl^*%*gl^9%*gl^4%*gl^,%*gl^;%*g^'-68~.!e~'!8~/!F~5!ep_shadow_s",
    "ta~0*<~0!B~8!X~4%(^2%wnm^*%wom^9%wpmem^5&!!~*!;~2!L~6!n^)-F(~1!p~)!=~4!P~9!tsecr~06h~,!=~4!P~6!tory_ordering~1!w~,!A~7!V~4%%igrate_^3%7w~-!>~5!R~5!wncor~0'f~&!8",
    "~/!F~4!ek^1%Fw~%!6~-!B~8!]~0-w~'!8~/!F~5!en^0%G[~%!6~-!B~8!]~2%Fn^*%GW~)!F~4!e~24+m~*4,m~94-~%!=2~3!_2~.!D~8!b^1&5w~(!9~0!H~4!hma~/FCmmap~,!?~7!Y2~2!Z2~-!B~4!]o",
    "dify_ld~0(5~)!;~2!L~5!n^1%=7^+%=5^:%=3~%!=_set~25q~-!>~5!R~5!wve~6%_~(!;~2!L~8!n~4/5~)!;~2!L~4!n^'-PI~/!l~'!9~0!H~5!hx~0!cx~+!=~4!Vq~%k>~5(!~,!>~5!R~6!w~&]:~1!s",
    "~&!:~1!J~6!k^2%Cy~'!8~/!F~6!etimedrecei^0%aE~/!A~7!V~C%%~5Zq~6!H~>!g~;%:se~1:c~+!=~4!P~?!t~=&0~+!E~;!a~6%1un~2ID~)!:~1!J~4!kre~22Q~%!7~.!D~4!bsg~1R.~&!7~.!D~6!b",
    "~1XP~&!7~.!D~6!br^0%i9~&!7~.!D~6!bs~1)Y~%!7~.!D~5!b^1%H7m^*%H7m^9%H7multiplex~1B'~*!<~3!N~5!qn~39e~&!8~/!F~:!e~29,~)!;~2!L~6!n~2*Z~%!7~.!D~3!bname_to_handle_~0<",
    "o~1!C~9!Z~5%+^5&1*^/&1!^>&0vnew^'%Ot~/!l~)!;~2!L~4!nfsserv~1-I~*!;~2!L~4!ni^6&Q4~*!;~2!L~5!nc~/4nnice~,!?~3!Yold^7&SO~,!=~4!P~7!t^9%6P~/!A~7!V~6%%^3%Vq~(!9~0!H~",
    "6!hl~5!hl~-!hl~<!holdu^2%,7~+!<~3!N~6!q~5%Z~-%Y~<%Xu~3A9~)!:~1!J~7!k~5&E~.&B~;&>~1<|~*<x~9<uopen_by~80E~1!C~9!Z~8%+tree~3!|tree~1!J~7!k~4%h~,%Z~;%O^1%qT~'!8~/!F",
    "~4!er1k^'&SH~/!i~*!<~3!N~4!qsf^6&Ga~+!<~3!N~8!q^8&b1~/!A~7!V~8%%lt_p~28q~-!>~5!R~;!ws^3%7w~.!?~6!T~<!zigpend~1W%~2!D~:!]~8%.synch_daemon~3%-~,!C~9!Z~8%+ud^2%v<~",
    "+!<~3!N~:!qge~4%r~%!;~2!L~7!nch^&-I3~1!o~'!<~3!N~7!q^4&/1~*!;~2!L~9!npor^1%jl~,!=~4!P~7!tf~9&[f~1&]f~A&_^7%z0~-!>~5!R~8!wpathconf~3!w~(!>~5!R~8!w~38K~(!:~1!J~<!",
    "k~4(Q^-%oF~-!N~>!q~0Ml~-!>~5!R~8!w^&)e*~1!sus~(HZ~+!J~7!kgetaddress~6(K~.!D~:!]~:%.^&/Mgries~5%-~*!C~9!Z~;%+^7%aw~1!C~9!Z~:%+fh~5!|fh~1!J~;!ks~6+Y~)!>~5!R~:!who",
    "st~46u~)!>~5!R~:!w^4%Yc~-!>~5!R~:!wlogin~5!v~%!=~4!P~:!tmn~6'emnt~2!L~:!n^4%P>~-!>~5!R~:!wsysinfo~5!x~'!?~6!T~:!z^7%N>~0!B~8!X~7%(kload~6?S~)!>~5!R~8!wmo~8!v~'!",
    "=~4!P~7!tl~6-Il~.-El~=-Amem~6=)~'!<~3!N~8!q~4t7~+!<~3!N~8!q~3LA~(!:~1!J~8!k~3ad~*!;~2!L~8!ns~<Fa~,!B~8!X~9%(~2X0~*!;~2!L~8!nval~42Y~&!;~2!L~8!nwakeu~4%b~&!<~3!N",
    "~7!qn^4'58~+!<~3!N~8!qfssv~3?_~&!;~2!L~8!n^9%l4~0!B~8!X~;%(^6%a?~0!B~8!X~8%(recvfr^0%hr~-!>~5!R~<!w^1%l5~,!=~4!P~8!tsend~6!t~'!=~4!P~8!ttp~:Qp~+!A~7!V~;%%^5&tP~",
    "/!A~7!V~7%%old^4&hx~-!>~5!R~;!w~7GW~)!>~5!R~;!w^5%sL~/!A~7!V~;%%killpg~6%!~&!?~6!T~;!zl~:&xl~2&xl~B&x~3_a~+!=~4!P~;!tsig^&,hE~6!y~)!C~9!Z~>%+b~6Xq~,!B~8!X~>%(^&",
    "'OE~9%)^))Z<~6!Z~>%+setmas~:&2~'!D~:!]~>%.vec~9%*vec~6!T~<!z~9+6~2+5~B+4v^4%>>~/!A~7!V~<%%trac~8%!~%!?~6!T~;!z^2&?,~,!=~4!P~:!tquota~5!t~%!=~4!P~7!t~:WK~2WJ~BWI",
    "pid_~7-t~)!>~5!R~;!wun~;!y~'!A~7!V~8%%~7!w~/!q~>!kriocntl^1%UB~/!A~7!V~9%%ofi~3Eq~&!;~2!L~:!nplist~:Fn~0!F~<!c~7%4reb^1'9%~*!;~2!L~9!nvok~3.E~&!;~2!L~7!ns^1'Br~",
    "(!9~0!H~8!hecu^2&/d~,!=~4!P~9!t^2'ZP~*!;~2!L~9!nt_program^**78~3_'~6!L~C!o~;%Gspeculati~4jY~/!E~;!a~:%1~8[Ts~2[Ts~B[Ts~:[Ts~2[Ts~B[Ts~9[Ts~1[Ts~A[Ts~;Yhs~3Yhs~C",
    "Yhs~=Yhs~5Yhs~EYhshm~4;2~%!:~1!J~8!kigna~31T~&!;~2!L~:!nproc~6>w~+!A~7!V~:%%send~55G~*!?~6!T~;!z^2%XF~,!=~4!P~:!twaitprim~5!w~(!A~7!V~8%%st~4%rstk~0!H~8!h~5BR~.",
    "BN~=BJ~8r=~0r<~?r;~:r:~2r9~Br8subsys_~7.y~*!A~7!V~8%%wapc~4d&~'!<~3!N~;!q~4L>~&!;~2!L~8!n~8<I~1<?~A<6~:2S~12P~?2Mtabl~37A~%!:~1!J~7!kuadm~452~&!;~2!L~8!n^''L0hr",
    "ea~37|~-!C~9!Z~9%+wi^1&3u~+!<~3!N~8!qtc~:ZL~+!A~7!V~;%%~9ZL~+!A~7!V~9%%im~4>C~&!;~2!L~9!ns~6d0~'!<~3!N~7!qwait~30j~%!:~1!J~;!k~4>L~&!;~2!L~3!npau~0Q]~%!6~-!B~4!",
    "]ci^&&|0_ioba~1!j~/!B~8!X~=%(~2-+~.!?~6!T~=!zwrit~9&&~%!A~7!V~4%%erf^&'A&~3]g~/!A~7!V~7%%c^0%_)~'!8~/!F~7!emon~16&~*!;~2!L~6!nsonal~1K&~+!<~3!N~4!qidf~%eS^0'E_~",
    "+!<~3!N~9!q~3(=~)!;~2!L~9!nsend~5Cc~1!C~9!Z~5%+p~0+4ipe~,!?~7!Y2~2!Z2~-!B~5!]vot_^2'jQ~*!;~2!L~4!n^)/?*~/!n~)!;~2!L~8!nf^1%Hr~)!:~1!J~8!k^6%j[~-!>~5!R~4!wo~0=Qp",
    "o~(=J~&!?~4!Y~3!Z~+![~>!]^5%e_~,!=~4!P~4!t^2'|O^+((T^:((Opread~1%P~&!8~/!F~8!ev~3!dv~.!D~9!b2~4!c2~/!F~5!e^*.8K~-!g~'!:~1!J~5!k^-/>%~0!q~-!A~7!V~<%%^'/=C~7%&~'!",
    "B~8!X~;%(vm_~5(J~.!B~8!X~>%(~%8O~:%)~&!C~9!Z~6%+f~1!v~-!?~7!Y~0eb~,e[~;eWp~&_O6~/!d~'!9~0!H~;!h~6.w~.!A~7!V~4%%~3obp~+oWp~:oOpu^3&qY~'!8~/!F~4!e~%(s~1&D~'!9~0!H",
    "~9!hv~4!gv~/!F~:!e2~5!f2~0!H~3!hquery^5&at~,!=~4!P~5!tota~13b~(!9~0!H~;!h_~0>6~+!<~3!N~3!q~2EM~*EC~9E8readah~5!a~%!:~1!J~7!k^1&2w~'!8~/!F~7!e^2%x|~(!9~0!H~;!h~0",
    "ZG~*!;~2!L~7!nv~2!iv~-!B~5!]~2pt~,pp~;plr^1'f>r^)'f=r^8'f<^6%5g^.%5b^=%5Zrecvm~102~(!9~0!H~;!h~52]~/!A~7!V~8%%~5%i~-%h~9%gmap^&&Um^3&1,~0!B~8!X~6%(^6&H<^1&H;^A&",
    "H:re~2To~&!7~.!D~9!b~2,h~&!9~0!H~;!h2~6!i2~1!J~5!kquest^2(O3~+!<~3!N~5!qstar~7|o~/!A~7!V~4%%iscv_flush_icach~0(?~1!D~:!]~9%.hwprob~5%)~'!>~5!R~4!wm~23om~*3mm~93",
    "kseq~/![seq~,!?~4!Yt^8%7x~,!=~4!P~9!t^5%mar^2%mYr^B%mT~'!F~5sZ~.!?~6!T~9!zqueue~2ij~/!A~7!V~9%%^4%9a~,!=~4!P~9!tsusp^1&8A~-!>~5!R~9!wtimed^2%5O~/!A~7!V~C%%~66.~",
    "5!H~>!g~6%:tg~=)5~.!C~9!Z~5%+a~06Otas~,!?~3!Ys390_guarded_stor^1%a)~4!F~<!c~8%4pci_mmio~3Bg~2!D~:!]~B%.~3fE~3!E~;!a~8%1runtime_ins~09k~2!D~:!]~8%.sthyi~3%&~%!;~",
    "2!L~4!nche~%dL_affin~1ev~2!D~:!]~=%.^).uPmax~8%2~,!H~>!g~H%:~0v|~6!H~>!g~<%:~?']~7'[~G'Z~2AN~-!>~5!R~<!wparam~7!x~%!?~6!T~<!z~%!,ule~8%|~)!D~:!]~9%.rr~%(cinterv",
    "~0k/~5!G~=!e~I%7~55Y~<!N~E!s~9%Ms~?.Ts~7.Ts~G.Ts~>,%s~6,%s~F,%s~:,%s~2,%s~B,%s~;,%s~3,%s~C,%s~?,%s~7,%s~G,%yie^0(>H~+!<~3!N~4!q^&/O2~/!m~&!8~/!F~6!e^3%FA^.%F<^=",
    "%F8^4%F4^,%F0^;%F,sem~1[K~&!7~.!D~6!b^1&S0~&!7~.!D~6!bo~1'Vmop~-!B~6!]~%Ac~3!d~'!;~2!L~=!n~60]~0!C~9!Z~5%+~0F>^*&ZT^9&ZLsendfi~0c|~(!9~0!H~;!h~2&G~(!;~2!L~7!n~2",
    "YP~(!9~0!H~8!h~5!g~-!f~;!eto~2!dto~.!D~5!b^9'u+s^2'u+s^B'u+~-!F_home_node~;%)~*!I~?!i~7%=^9'vFs^4'vFs^D'vFs^<'vFs^4'vFs^D'vF~%!Hid_^'&6=~3%%~*!A~7!V~8%%l~4!uls~",
    "/!F~6!e^8&6Js^2&6Fs^B&6Bsetf^2'dD~(!9~0!H~;!h^0'5p~*!;~2!L~8!nu~5%Xu~-%Xu~<%Xu~7%Xu~/%Xu~<%X~4'5~,'3~;'1~6'/~.'-~='+^4'sVs^.'sVs^='sVs^8'sVs^0'sVs^?'sVsetha~2+:",
    "hae~.!D~7!b^5't<s^0't<s^?'t<^7%Z!^/%Yx^>%Ytsetn~2(&ns~-!B~6!]p~4*7p~,*8p~;*9^2%|ds^,%|Ys^;%|Qs^8'q%s^0'q%s^?'q%setre~4&Cre~,&Dre~;&Ere~6,_re~.,bre~=,d^4'qms^.'q",
    "ms^='qms^8'qms^0'qms^?'qms^6'qms^.'qms^='qms^8'qms^0'qms^?'qm~%!D~6%_~.%]~=%[~8%Z~0%Y~>%X^3'sJs^.'sJs^='sJ^4&[a^,&[V^;&[Ns^7'qgs^/'qgs^>'qg^:%fx^2%ft^B%fps^3'q(",
    "s^+'q(s^:'q(s^5'q(s^-'q(s^<'q(^6'D)^.'D(^='D'sg^4&*?~(!9~0!H~4!h^2%in^+%ij^:%ifsh~3Msh~+Msh~:Mshmd~2%Cdt~-!B~6!]~2NTh~+NTh~:NThutd^1'R:~(!9~0!H~4!h~6uu~/ur~>uos",
    "igalt^3%jQ~+!<~3!N~6!q^1%LP^,%LE^;%L9^(/1b~4!d^(%3i~*!H~;!h4~6!i4~1!J~6!k~5xz~0xw~?xt~9xq~1xn~Axk~7wf~/wc~>w_~8wZ~0wW~?wTsock~1,m~%!7~.!D~9!b^2%*C~*!;~2!L~9!npa",
    "^0%(6~*!;~2!L~4!npl^1'(V~&!7~.!D~5!bu^5'N'~*!;~2!L~7!nrun~2!krun~/!F~4!e^5&:[s^-&:Qs^<&:G^2%si^*%se^9%sa^4'U+^,'U*^;'U)^4%tA^,%t<^;%t8^6%t4^.%t0^=%t,statx~2!ex~",
    "-!B~5!]^1%kMs^*%kCs^9%k8s^1(+:s^)(+:s^8(+:subpage_pr^0%=h~,!=~4!P~4!twap^'2(W~/!s~*!<~3!N~7!qoff~2!mof~0!F~8!en~3!dn~.!D~5!bitch_endia~1!i~+!>~5!R~4!wym^2%E1~'!",
    "8~/!F~:!e~1-g~(!:~1!J~5!k^0&vN^*&vE^9&v;^=)_V^5)_R^E)_N~/!H2~=%&2~8!X~7%(~1/r~%!7~.!D~5!bs_debug_set~6,A~3!F~<!c~7%4^:);T~0!B~8!X~>%(~1Du~,!>~5!R~=!w^2%60~.!?~6",
    "!T~6!z~3:n^,%B-^<%B%sys~2)Ys~*)Xs~:)W^2%6/^-&),^<&)(^&.kL~1!dlog~.!D~6!bmi~1a<~&!8~/!F~3!et^0%l?t^(%l9t^7%l3^&/Uu~/!Yg^*(%N~(!D~4!b~17P~*7O~97N~%_5~5,K~,!=~4!P~",
    "9!t^&)Ht~4!t~&!=~4!P~9!tgetover~1?+~0!B~8!X~<%(~6'Yr^.&*X~/!R~A!w~0=Q~/!A~7!V~9%%s~:%ys~2%ys~B%ys~<%ys~4%ys~C%y~0Mr~'!8~/!F~:!e~:+W^/'rb~0!T~;!z~:)b~*!A~7!V~C%%",
    "~5'j~,!C~9!Z~;%+s~<&-s~4&-s~D&-s~>&-s~6&-~C)xs~2!ws~-!B~4!]~32j~+2i~:2h^5)'U^.)'T^=)'S^8)'R^0)'Q^?)'Ptux~29:~'!8~/!F~3!eudftr^0'%n~'!8~/!F~4!e^7([xu^/([yu^>([zu",
    "~4!j~,!f~;!b~2P1u~*P.u~9P+^4'Qw^,'Qt^;'Qq~&!>2~4!c2~/!F~4!e~2vG^+'RR^:'RO^4'iE^,'iB^;'i>~&!>~0I3~(!9~0!H~5!hshar~1&1~%!8~/!F~4!eselib~/!d~%!7~.!D~6!brfaul^1&4X~",
    "+!<~3!N~5!qr26~0!kr26~-!B~6!]~0l:~%!6~-!B~5!]~1WAu~*WBu~9WCu~24Ru~*4Hu~94=~%!=n^1)._~)!:~1!J~<!k^5%:,~0!B~8!X~8%(s~3!vs~.!D~5!brap_inst~12s~-!>~5!R~3!wv^2)FBv^*",
    ")FCv^9)FDvhang^0'1w~'!8~/!F~4!em8~/+Uvm86~,!?~7!Y^1)c9~'!8~/!F~5!e~4e'~(!9~0!H~4!hserv^0%+i~'!8~/!F~3!e^3&Ik^+&Ig^:&Ic^4&I]^,&IX^;&ITwai^2(z2~'!8~/!F~4!e^2%_*^+",
    "%]t^:%]f^4&+c^,&+b^/&+a^I.6jx^=.6hBIT^&.6iX^*-Gd~.!9\t^i-z=^+-''x^&-WW^0.Ym^+-TE || (^0-Xu^&0%D^//ZD^0,Yhmode^)0Ds:32;^(-(i~%!(^*0x7~*!7fr^&28<~*!5max^)1%>~*!9e",
    "st~)!9in^&/S4u~:%:constan~/%<preci^(-*>~*!:tolerance^3-*Vt^'-Nf~+!Rick~/%&ps~2&Cjit^'1%<~%&*hift~9&)stab^&/Ri~-!gc~0&;cal~1!7err~1!7stb~%!7~'%?tai~)!/~%%M~>!-~n",
    "!N^*,kZ~6*R^2-p|^,1&f~0!?~((7~2!=~,*b~2!B~:*j~2!P~,*g~2!B~-*o~2!C~E*w~3!Z~'+'~3%>~*+/~2!A~7+7~2!M~*+4~5!lc~8&l~*+E~3(&~)+M~4%?~3+U~|+V~B+V~%5;^--IwADJ^'/j*^&1GP",
    "^+.R7ADJ_FREQUENCY~'!B2~-!BMAX^&1Wm~&!A4~-!AEST~,!A8~-!ASTATUS~&!>^+.QiADJ~%4LCONS~'%d2~/!BAI\t~&!<8~.!<SET~+&D^,.np~%&%ICRO\t^)1Jv~+!=NAN~%!<2~0!<TICK\t^'2!p~3",
    "'W_SINGLESHOT^&2%!1~5!IS^(2=Ba001~+(LMOD~((L~*!S~-!B~*(O~-(_~-!H~)(U~,(e~-!F~)(Z~,(j~-!F~'(b~*(m~-!B~*(e~-(s~-!HCLKB~'!CCK~0!=A\t~5']~.%4AI\t~&!hAI~.&]~%)6~))A~",
    "-!?~%)8~()B^,*s5STA_PLL~1,T~%!;PSFREQ~0,Q~'!>TIME~0,OSTA_F~)!u8~.%6IN~2,HSTA_DEL~1,BSTA_UN^'2+_^-.w/~%%2REQHOLD~(,b~0%n^&0AY~0,b~'!AJITTER^'2.b~0!AWAND~&!A4~2!A",
    "~&*H^&2._~.%DCLOCKERR~0-gSTA~&(O~/-fSTA_MODE~0-e~&!s~%.%8^/0ZaTA_RONLY (~-&d |~.&T~*!3~&&G^'/Q-|~-&?~'!2~(&1~'!2NANO~'!.MODE~)!IK)^O3DLl_find_obje^A.qq^D3?c~.!t",
    "^Q3?l~)HMx^1-<IDLFO^(.o.HAS_EH_DBASE ^1-<J~9!N^1-H2~3!NCOUNT^+/C6~%!GEH_SEGMEN^&-XM PT_GNU_EH_FRAME~F(;iscanonical^b-92~-!p^P-96^-0Tk~+!pl (~%DF^&+%W __x^10C]^;",
    "0U!^+.Zt~*!zf(x)^'3BO) (__typeof (x)) (x), 1)~6!_~E!]if _^&-]4DISTINCT_FLOAT12^+0oM~.%b128~E%)~''Q~/(k_cplusplu~+Y!~/&._~&)8TG (~%!t~-%N,~%%5^*+/X^*0Cq\"C++\" @",
    "`^'+*3int~,%( (flo~%[xval) @^*-4T~,&W (~&!D; $~9!o~))Z~;!p~E!o~.*S~;!t~-!u^'-Jo~7)1~8%;_Float128~?''128~.%<~'CX~M3>mathcalls-narr^A.|X~6/+~.T[~2!y~P/4`~&+*CALL_",
    "NARROW (~-!6ME (add~%+E~)!:REDIR~-!A2);~H!tdiv~:!t~&!A~K!tfma~8!t2~(!B3~J!umul~:%n~&!A~K%nsqrt~;%o~'!C1~K!wub~:%p~&!A2)^J0_[info-~%4Cs-arch.h~++R~%]H^(1bs~%ESS^",
    "&,.q^1/x<~4!H^&.*d~L-Gstatx^=2Of~+%oS^'0?6~+-J^80?2x^42Ob,^/+6vta^-3Ix~+<m~:b'~%%,~%b-stamp~AbW~%!S^(.zJ~%&BSTATX~%<*~+e?~)!7^&/l!1U~0!?~%Ay~&Gx~1!?NLINK~&!A4~1",
    "!AUID~&!>8~1!>G~'!>^&2I/~-!>^&0+m~&H,~2%]~)!A4~2!AC~)!A8~2!AINO ~&H-~1!>~%e)~&H,~1!?B^&1Qv~&H-~2!BAS^&0g-T~%!G7ff~2&KLL 0x0f~3!>B~(&+8~3%*MNT_~%'M10~3!BDIOALIGN",
    " ~&Hy~1!D_^'1!xD ~&Hj0~%!I~2(>TR_COMPRESSE~'),4~5!J^*02d~(M:~3!I^'03e~(ME~3!FNODUMP~')A~5!FENCRYPT~&%a80~7%8UTOM~&Eu^/2'!~+!I~%!E_ROOT~''N~5!JVER^&1O_^0/DW~+!HD",
    "AX~'!j^+/DJ^00x6~(c]x^(2Cjdir^*2Ci^80eB~'ET^&2Mk^(+b_ ^40*ysk, ^+0Brx~/!ubuf^93l&^(0_R^U0_Jx~p3R~U3J`^,+TW^H3u.~&!t^53u'~'!>^*1G,~-3M^+-jm~/4R^+.BN~3!K~-!A~'N8^",
    "13v-~=6i^L.Dj~%(8_~?R/_~'!J^*.Dy~*&/~/!> 1^.2GQ~'!C^_.b&~9*h~Q*f~58i~T:B~('=~-).~+NU~0)G~%!!~,.K^+1t'^&1u4tx~%.t;~2!:blk^.1ui^'1zbx~*Pts~3![nlin~4!v^)35A~-!9g~,",
    "!916~(%e^-1um~%!:~(&Xpad1[1]~3%iino~3!9~7&>^*0OE~9&X~)'?~,'k~*.%~'!R~'r%~;!Hb~D!Hc~D!Hm~*s=~-'nrdev^'09E~8!Ain~5!A~<!_~3!]~%'L~+(]2[1^(-].~a.=~,CX~y.H~-Dh~e.R~1",
    "4/~1.]~44R`~6)Z~'.o~((1^*./[~+(ftv_n~)!9~(!8~2%;~)-J^S.RR-^B1+8^).R9^'3r8~-Kx~)!;^10H7UIO~AT<~)%O^6.,.io^G1:j~'Zp^02aX^)'B0(^-1Y1^62aXlvec^'1[M^4.]oliovcn^(1[r~",
    "6!jr~>!jr~-!j~4!F^32bN~;&X^'%4j~P&Y~D&Z~C&[~D&]~J&_~(+&RWF_HIPRI\t^*2EP~-!AD~)sI~%!!2~-!A~.!?4~-!?^(3E/~(!B8~-!B~&IF~)!B10^[2nKxopen^9.]Z~3.5XOPEN^0.]d~+!8\t1~=",
    "!o~*'i\t~'!Z^(._!_^&3.8U^&1mnIOV~1B_^).a]>~*E>~'!e~*A]~'!4~,!>~'pQ^&196~*!9~(F8~(&BNL_ARG~+%[^(2Uj~-!GLAN~+!H2_L^&0H6~/!JMS~%!IINT~'!?`^2/t.GNU ||^70%i~+lJNL_N~",
    ",!t~)&5~+%?SET~.%?~+!?TEX~8!AZERO\t^'1r1~'(&~)%5 i~)!0^&%<h767^+.0TWORD_BIT\t16^-1n9~,!X2147483647~,Hi~)!a32^)1l?~5!D^51l:^/.73~'%=^*.9-~)!4~N&0~/!]~z&4~,x6~-!s",
    "~))Q~&(WLONG~*(X~(!1~2%k~'!r~%!E~)%j~)%i~0!B~%%h~6'p~(%2~*'q~*!5~r%G~%'*^:.Rz~'%N^,%E<~&'w~6%%^..>6~/%d~.Of~&!+"]

end CInspect.Includes
